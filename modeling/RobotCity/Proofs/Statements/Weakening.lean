import RobotCity.Proofs.Statements.Parts
import RobotCity.Proofs.Typing

/-!
# Wider surroundings

Whether a statement is accepted depends on the variables that it uses and the procedures that it
calls, at whatever depth, and on no others.  So what is accepted in some surroundings stays accepted
where more variables, procedures and recipients are known; and only the outcomes of look-ups count,
not the tables in which they are made.
-/

namespace RobotCity

namespace Expression

/-- An expression reads a variable. -/
def Reads (name : Text) (expression : Expression) : Prop :=
  .variable name ∈ expression.parts

theorem self_mem_parts (expression : Expression) : expression ∈ expression.parts := by
  cases expression <;> simp [parts]

theorem Reads.of_operand {name operator : Text} {operand : Expression} (reads : operand.Reads name) :
    (Expression.unary operator operand).Reads name :=
  List.mem_cons_of_mem _ reads

theorem Reads.of_left {name operator : Text} {left : Expression} (right : Expression)
    (reads : left.Reads name) : (Expression.binary operator left right).Reads name :=
  List.mem_cons_of_mem _ (List.mem_append_left _ reads)

theorem Reads.of_right {name operator : Text} (left : Expression) {right : Expression}
    (reads : right.Reads name) : (Expression.binary operator left right).Reads name :=
  List.mem_cons_of_mem _ (List.mem_append_right _ reads)

/-- The type of an expression depends on the variables that it reads alone. -/
theorem HasType.of_reads {scope other : Scope} {expression : Expression} {type : Text}
    (typed : expression.HasType scope type)
    (known : ∀ name, expression.Reads name → ∀ type, scope.find? name = some type →
      other.find? name = some type) : expression.HasType other type := by
  induction typed with
  | integer => exact .integer
  | boolean => exact .boolean
  | «variable» found => exact .variable (known _ (self_mem_parts _) _ found)
  | position member => exact .position member
  | finding member => exact .finding member
  | minus _ ih => exact .minus (ih fun name reads => known name reads.of_operand)
  | not _ ih => exact .not (ih fun name reads => known name reads.of_operand)
  | arithmetic member _ _ left_ih right_ih =>
      exact .arithmetic member (left_ih fun name reads => known name (reads.of_left _))
        (right_ih fun name reads => known name (reads.of_right _))
  | relational member _ _ left_ih right_ih =>
      exact .relational member (left_ih fun name reads => known name (reads.of_left _))
        (right_ih fun name reads => known name (reads.of_right _))
  | logical member _ _ left_ih right_ih =>
      exact .logical member (left_ih fun name reads => known name (reads.of_left _))
        (right_ih fun name reads => known name (reads.of_right _))
  | equality member _ _ left_ih right_ih =>
      exact .equality member (left_ih fun name reads => known name (reads.of_left _))
        (right_ih fun name reads => known name (reads.of_right _))

end Expression

namespace Statement

/-- A statement itself, its parts left out, assigns or reads a variable. -/
def Mentions (name : Text) (statement : Statement) : Prop :=
  (∃ value, statement = .assign name value) ∨ ∃ expression ∈ statement.expressions,
    expression.Reads name

/-- A statement uses a variable, at any depth. -/
def Uses (name : Text) (statement : Statement) : Prop :=
  ∃ inner : Statement, inner.StandsIn statement ∧ inner.Mentions name

/-- A statement calls a procedure, at any depth. -/
def Calls (name : Text) (statement : Statement) : Prop :=
  ∃ arguments, (Statement.call name arguments).StandsIn statement

theorem Uses.of_part {name : Text} {outer part : Statement} (member : part ∈ outer.parts)
    (uses : part.Uses name) : outer.Uses name := by
  obtain ⟨inner, stands, mentions⟩ := uses
  exact ⟨inner, .part member stands, mentions⟩

theorem Calls.of_part {name : Text} {outer part : Statement} (member : part ∈ outer.parts)
    (calls : part.Calls name) : outer.Calls name := by
  obtain ⟨arguments, stands⟩ := calls
  exact ⟨arguments, .part member stands⟩

theorem Uses.of_reads {name : Text} {statement : Statement} {expression : Expression}
    (member : expression ∈ statement.expressions) (reads : expression.Reads name) :
    statement.Uses name :=
  ⟨statement, .itself, .inr ⟨expression, member, reads⟩⟩

end Statement

/-- What a statement uses in some surroundings is known in other ones, too, and means the same
there. -/
structure Surroundings.Suffices (around other : Surroundings) (statement : Statement) : Prop where
  used_variables : ∀ name, statement.Uses name → ∀ type, around.scope.find? name = some type →
    other.scope.find? name = some type
  called_procedures : ∀ name, statement.Calls name → ∀ signature,
    around.procedures.find? name = some signature → other.procedures.find? name = some signature
  recipients : ∀ recipient, around.everyone = some recipient ∨ recipient ∈ around.robots →
    other.everyone = some recipient ∨ recipient ∈ other.robots

namespace Surroundings.Suffices

variable {around other : Surroundings} {statement : Statement}

theorem of_part (suffices_all : around.Suffices other statement) {part : Statement}
    (member : part ∈ statement.parts) : around.Suffices other part where
  used_variables name uses := suffices_all.used_variables name (uses.of_part member)
  called_procedures name calls := suffices_all.called_procedures name (calls.of_part member)
  recipients := suffices_all.recipients

theorem infer (suffices_all : around.Suffices other statement) {expression : Expression}
    (member : expression ∈ statement.expressions) {type : Text}
    (inferred : expression.infer around.scope = .ok type) :
    expression.infer other.scope = .ok type := by
  refine Expression.infer_of_hasType ((Expression.hasType_of_infer inferred).of_reads ?_)
  exact fun name reads => suffices_all.used_variables name (.of_reads member reads)

theorem passes (suffices_all : around.Suffices other statement) {argument : Expression}
    (member : argument ∈ statement.expressions) {parameter : Parameter}
    (passes : around.Passes parameter argument) : other.Passes parameter argument := by
  cases passes with
  | byReference found =>
      have uses := Statement.Uses.of_reads member (Expression.self_mem_parts _)
      exact .byReference (suffices_all.used_variables _ uses _ found)
  | byValue inferred => exact .byValue (suffices_all.infer member inferred)

theorem all_pass (suffices_all : around.Suffices other statement) {parameters : List Parameter}
    {arguments : List Expression} (members : ∀ argument ∈ arguments, argument ∈ statement.expressions)
    (all_pass : List.Forall₂ around.Passes parameters arguments) :
    List.Forall₂ other.Passes parameters arguments := by
  induction all_pass with
  | nil => exact .nil
  | cons first_passes _ ih =>
      obtain ⟨first_member, rest_members⟩ := List.forall_mem_cons.mp members
      exact .cons (suffices_all.passes first_member first_passes) (ih rest_members)

/-- A statement stays accepted where all that it uses is known. -/
theorem accepted (suffices_all : around.Suffices other statement)
    (accepted : statement.Accepted around) : statement.Accepted other := by
  induction accepted with
  | @assign target type value found inferred =>
      have uses : (Statement.assign target value).Uses target :=
        ⟨_, .itself, .inl ⟨value, rfl⟩⟩
      exact .assign (suffices_all.used_variables target uses type found)
        (suffices_all.infer (List.mem_singleton_self _) inferred)
  | block _ body_ih => exact .block fun part member => body_ih part member (suffices_all.of_part member)
  | ifThen typed _ body_ih =>
      exact .ifThen (suffices_all.infer (List.mem_singleton_self _) typed)
        (body_ih (suffices_all.of_part (List.mem_singleton_self _)))
  | ifElse typed _ _ body_ih otherwise_ih =>
      exact .ifElse (suffices_all.infer (List.mem_singleton_self _) typed)
        (body_ih (suffices_all.of_part (List.mem_pair.mpr (.inl rfl))))
        (otherwise_ih (suffices_all.of_part (List.mem_pair.mpr (.inr rfl))))
  | times typed _ body_ih =>
      exact .times (suffices_all.infer (List.mem_singleton_self _) typed)
        (body_ih (suffices_all.of_part (List.mem_singleton_self _)))
  | loop typed _ body_ih =>
      exact .loop (suffices_all.infer (List.mem_singleton_self _) typed)
        (body_ih (suffices_all.of_part (List.mem_singleton_self _)))
  | informText => exact .informText
  | informTextValue inferred =>
      exact .informTextValue (suffices_all.infer (List.mem_singleton_self _) inferred)
  | informValue inferred => exact .informValue (suffices_all.infer List.mem_cons_self inferred)
  | moveTo x_typed y_typed =>
      exact .moveTo (suffices_all.infer (List.mem_pair.mpr (.inl rfl)) x_typed)
        (suffices_all.infer (List.mem_pair.mpr (.inr rfl)) y_typed)
  | exchange inferred reaches =>
      exact .exchange (suffices_all.infer (List.mem_singleton_self _) inferred)
        (suffices_all.recipients _ reaches)
  | corner x_typed y_typed =>
      exact .corner (suffices_all.infer (List.mem_pair.mpr (.inl rfl)) x_typed)
        (suffices_all.infer (List.mem_pair.mpr (.inr rfl)) y_typed)
  | call found all_pass =>
      exact .call (suffices_all.called_procedures _ ⟨_, .itself⟩ _ found)
        (suffices_all.all_pass (fun _ member => member) all_pass)

end Surroundings.Suffices

/-- All that is known in some surroundings is known in wider ones, and means the same there. -/
structure Surroundings.Within (around wider : Surroundings) : Prop where
  scope : ∀ name type, around.scope.find? name = some type → wider.scope.find? name = some type
  procedures : ∀ name signature,
    around.procedures.find? name = some signature → wider.procedures.find? name = some signature
  recipients : ∀ recipient, around.everyone = some recipient ∨ recipient ∈ around.robots →
    wider.everyone = some recipient ∨ recipient ∈ wider.robots

namespace Surroundings.Within

variable {around wider : Surroundings}

/-- What is known of all names is known of those that a statement uses. -/
theorem statement_suffices (within : around.Within wider) (statement : Statement) :
    around.Suffices wider statement where
  used_variables name _ := within.scope name
  called_procedures name _ := within.procedures name
  recipients := within.recipients

/-- What is accepted stays accepted in wider surroundings. -/
theorem accepted (within : around.Within wider) {statement : Statement}
    (accepted : statement.Accepted around) : statement.Accepted wider :=
  (within.statement_suffices statement).accepted accepted

end Surroundings.Within

/-- Surroundings accept the same statements if all look-ups agree and a message can reach the same
recipients. -/
theorem Statement.accepted_iff_of_lookups {around other : Surroundings}
    (scope_same : ∀ name, around.scope.find? name = other.scope.find? name)
    (procedures_same : ∀ name, around.procedures.find? name = other.procedures.find? name)
    (recipients_same : ∀ recipient, around.everyone = some recipient ∨ recipient ∈ around.robots ↔
      other.everyone = some recipient ∨ recipient ∈ other.robots) (statement : Statement) :
    statement.Accepted around ↔ statement.Accepted other := by
  have within : around.Within other :=
    ⟨fun name _ found => (scope_same name).symm.trans found,
      fun name _ found => (procedures_same name).symm.trans found,
      fun recipient => (recipients_same recipient).mp⟩
  have within_back : other.Within around :=
    ⟨fun name _ found => (scope_same name).trans found,
      fun name _ found => (procedures_same name).trans found,
      fun recipient => (recipients_same recipient).mpr⟩
  exact ⟨within.accepted, within_back.accepted⟩

end RobotCity
