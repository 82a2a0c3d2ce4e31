import RobotCity.Proofs.Stages
import RobotCity.Proofs.Statements.Weakening

/-!
# What a verdict depends on

What is found in a statement depends on the types of the variables that occur in it, the parameters of
the procedures that it calls, and whether its messages reach anybody.  Surroundings that agree on these
find the same fault, or none in either.
-/

namespace RobotCity

/-- The type of an expression, and what is wrong if it has none, depends on the variables that it reads
alone. -/
theorem Expression.infer_eq_of_reads {scope other : Scope} {expression : Expression}
    (agree : ∀ name, expression.Reads name → scope.find? name = other.find? name) :
    expression.infer scope = expression.infer other := by
  induction expression with
  | integer | boolean | query => rfl
  | «variable» name => rw [infer, infer, agree name (self_mem_parts _)]
  | unary operator operand ih =>
      rw [infer, infer, ih fun name reads => agree name reads.of_operand]
  | binary operator left right left_ih right_ih =>
      rw [infer, infer, left_ih fun name reads => agree name (reads.of_left right),
        right_ih fun name reads => agree name (reads.of_right left)]

/-- A statement exchanges a message with a recipient, at any depth. -/
def Statement.Addresses (recipient : Text) (statement : Statement) : Prop :=
  ∃ mode value, (Statement.exchange mode value recipient).StandsIn statement

/-- A message reaches a recipient. -/
def Surroundings.Reaches (around : Surroundings) (recipient : Text) : Prop :=
  around.everyone = some recipient ∨ recipient ∈ around.robots

/-- The parameters of a procedure that can be called. -/
def Surroundings.parametersOf? (around : Surroundings) (procedure : Text) : Option (List Parameter) :=
  (around.procedures.find? procedure).map (·.parameters)

/-- Two surroundings agree on all that occurs in a statement. -/
structure Surroundings.AgreesOn (around other : Surroundings) (statement : Statement) : Prop where
  used_variables : ∀ name, statement.Uses name → around.scope.find? name = other.scope.find? name
  called_procedures : ∀ name, statement.Calls name →
    around.parametersOf? name = other.parametersOf? name
  addressed_recipients : ∀ recipient, statement.Addresses recipient →
    (around.Reaches recipient ↔ other.Reaches recipient)

namespace Surroundings

variable {around other : Surroundings} {statement : Statement}

namespace AgreesOn

theorem of_part (agrees : around.AgreesOn other statement) {part : Statement}
    (member : part ∈ statement.parts) : around.AgreesOn other part where
  used_variables name uses := agrees.used_variables name (uses.of_part member)
  called_procedures name calls := agrees.called_procedures name (calls.of_part member)
  addressed_recipients recipient := by
    rintro ⟨mode, value, stands⟩
    exact agrees.addressed_recipients recipient ⟨mode, value, .part member stands⟩

/-- Surroundings agree on a statement if they do so on its parts and on what it mentions itself. -/
theorem of_parts (parts_agree : ∀ part ∈ statement.parts, around.AgreesOn other part)
    (mentioned : ∀ name, statement.Mentions name →
      around.scope.find? name = other.scope.find? name)
    (called : ∀ name arguments, statement = .call name arguments →
      around.parametersOf? name = other.parametersOf? name)
    (addressed : ∀ mode value recipient, statement = .exchange mode value recipient →
      (around.Reaches recipient ↔ other.Reaches recipient)) :
    around.AgreesOn other statement where
  used_variables name uses := by
    obtain ⟨inner, stands, mentions⟩ := uses
    cases stands with
    | itself => exact mentioned name mentions
    | part member stands => exact (parts_agree _ member).used_variables name ⟨inner, stands, mentions⟩
  called_procedures name calls := by
    obtain ⟨arguments, stands⟩ := calls
    cases stands with
    | itself => exact called name arguments rfl
    | part member stands => exact (parts_agree _ member).called_procedures name ⟨arguments, stands⟩
  addressed_recipients recipient addresses := by
    obtain ⟨mode, value, stands⟩ := addresses
    cases stands with
    | itself => exact addressed mode value recipient rfl
    | part member stands =>
        exact (parts_agree _ member).addressed_recipients recipient ⟨mode, value, stands⟩

theorem infer_eq (agrees : around.AgreesOn other statement) {expression : Expression}
    (member : expression ∈ statement.expressions) :
    expression.infer around.scope = expression.infer other.scope :=
  Expression.infer_eq_of_reads fun name reads =>
    agrees.used_variables name (.of_reads member reads)

end AgreesOn

theorem assignFault?_eq {target : Text} {value : Expression}
    (agrees : around.AgreesOn other (.assign target value)) :
    around.assignFault? target value = other.assignFault? target value := by
  have uses : (Statement.assign target value).Uses target := ⟨_, .itself, .inl ⟨value, rfl⟩⟩
  rw [assignFault?, assignFault?, agrees.used_variables target uses,
    agrees.infer_eq (List.mem_singleton_self value)]

theorem conditionFault?_eq (agrees : around.AgreesOn other statement) (control : Control)
    {condition : Expression} (member : condition ∈ statement.expressions) :
    around.conditionFault? control condition = other.conditionFault? control condition := by
  rw [conditionFault?, conditionFault?, agrees.infer_eq member]

theorem informFault?_eq {notice : Notice} {value : Option Expression}
    (agrees : around.AgreesOn other (.inform notice value)) :
    around.informFault? notice value = other.informFault? notice value := by
  cases notice with
  | text content =>
      cases value with
      | none => rfl
      | some shown =>
          simp only [informFault?, Option.map_some, agrees.infer_eq (List.mem_singleton_self shown)]
  | value shown => simp only [informFault?, Option.map_some, agrees.infer_eq List.mem_cons_self]

theorem cornerFault?_eq (agrees : around.AgreesOn other statement) (keyword : String)
    {x y : Expression} (expressions_eq : statement.expressions = [x, y]) :
    around.cornerFault? keyword x y = other.cornerFault? keyword x y := by
  have x_member : x ∈ statement.expressions := by simp [expressions_eq]
  have y_member : y ∈ statement.expressions := by simp [expressions_eq]
  simp only [cornerFault?, coordinateFault?, agrees.infer_eq x_member, agrees.infer_eq y_member]

theorem exchangeFault?_eq {mode : MessageMode} {value : Expression} {recipient : Text}
    (agrees : around.AgreesOn other (.exchange mode value recipient)) :
    around.exchangeFault? mode value recipient = other.exchangeFault? mode value recipient := by
  have reaches_iff : (around.everyone = some recipient ∨ recipient ∈ around.robots) ↔
      (other.everyone = some recipient ∨ recipient ∈ other.robots) :=
    agrees.addressed_recipients recipient ⟨mode, value, .itself⟩
  simp only [exchangeFault?, agrees.infer_eq (List.mem_singleton_self value), reaches_iff]

theorem argumentFault?_eq (agrees : around.AgreesOn other statement) (procedure : Text)
    (position : Nat) (parameter : Parameter) {argument : Expression}
    (member : argument ∈ statement.expressions) :
    around.argumentFault? procedure position parameter argument =
      other.argumentFault? procedure position parameter argument := by
  obtain ⟨passing, name, type⟩ := parameter
  cases passing with
  | byReference =>
      cases argument with
      | «variable» given =>
          have found_same := agrees.used_variables given (.of_reads member (Expression.self_mem_parts _))
          simp only [argumentFault?, found_same]
      | _ => rfl
  | byValue => simp only [argumentFault?, agrees.infer_eq member]

theorem argumentsFault?_eq (agrees : around.AgreesOn other statement) (procedure : Text)
    (position : Nat) (parameters : List Parameter) (arguments : List Expression)
    (members : ∀ argument ∈ arguments, argument ∈ statement.expressions) :
    around.argumentsFault? procedure position parameters arguments =
      other.argumentsFault? procedure position parameters arguments := by
  induction parameters generalizing position arguments with
  | nil => rfl
  | cons parameter rest ih =>
      cases arguments with
      | nil => rfl
      | cons argument later =>
          obtain ⟨member, later_members⟩ := List.forall_mem_cons.mp members
          rw [argumentsFault?, argumentsFault?,
            argumentFault?_eq agrees procedure position parameter member,
            ih (position + 1) later later_members]

theorem callFault?_eq {procedure : Text} {arguments : List Expression}
    (agrees : around.AgreesOn other (.call procedure arguments)) :
    around.callFault? procedure arguments = other.callFault? procedure arguments := by
  have parameters_same := agrees.called_procedures procedure ⟨arguments, .itself⟩
  rw [parametersOf?, parametersOf?] at parameters_same
  rw [callFault?, callFault?]
  cases found : around.procedures.find? procedure with
  | none =>
      rw [found, Option.map_none, eq_comm, Option.map_eq_none_iff] at parameters_same
      rw [parameters_same]
  | some signature =>
      rw [found, Option.map_some, eq_comm, Option.map_eq_some_iff] at parameters_same
      obtain ⟨signature', found', same⟩ := parameters_same
      have arguments_same := argumentsFault?_eq agrees procedure 1 signature.parameters
        arguments fun _ member => member
      simp only [found', same, arguments_same]

mutual

/-- Surroundings that agree on a statement find the same fault in it. -/
theorem AgreesOn.fault?_eq {statement : Statement} (agrees : around.AgreesOn other statement) :
    statement.fault? around = statement.fault? other := by
  cases statement with
  | assign target value => exact assignFault?_eq agrees
  | block body => exact bodyFault?_eq fun part member => agrees.of_part member
  | ifThen condition body =>
      rw [Statement.fault?, Statement.fault?,
        conditionFault?_eq agrees .branch (List.mem_singleton_self condition),
        AgreesOn.fault?_eq (agrees.of_part (List.mem_singleton_self body))]
  | ifElse condition body otherwise =>
      rw [Statement.fault?, Statement.fault?,
        conditionFault?_eq agrees .branch (List.mem_singleton_self condition),
        AgreesOn.fault?_eq (agrees.of_part (List.mem_pair.mpr (.inl rfl))),
        AgreesOn.fault?_eq (agrees.of_part (List.mem_pair.mpr (.inr rfl)))]
  | times count body =>
      rw [Statement.fault?, Statement.fault?,
        conditionFault?_eq agrees .times (List.mem_singleton_self count),
        AgreesOn.fault?_eq (agrees.of_part (List.mem_singleton_self body))]
  | loop condition body =>
      rw [Statement.fault?, Statement.fault?,
        conditionFault?_eq agrees .loop (List.mem_singleton_self condition),
        AgreesOn.fault?_eq (agrees.of_part (List.mem_singleton_self body))]
  | inform notice value => exact informFault?_eq agrees
  | moveTo x y => exact cornerFault?_eq agrees "Pos" rfl
  | exchange mode value recipient => exact exchangeFault?_eq agrees
  | corner mode x y => exact cornerFault?_eq agrees mode.keyword rfl
  | call procedure arguments => exact callFault?_eq agrees

theorem bodyFault?_eq {body : List Statement}
    (agree : ∀ statement ∈ body, around.AgreesOn other statement) :
    Statement.bodyFault? around body = Statement.bodyFault? other body := by
  cases body with
  | nil => rfl
  | cons first rest =>
      obtain ⟨first_agrees, rest_agree⟩ := List.forall_mem_cons.mp agree
      rw [Statement.bodyFault?, Statement.bodyFault?, first_agrees.fault?_eq,
        bodyFault?_eq rest_agree]

end

end Surroundings

/-- Procedures are called by their names and parameters alone. -/
theorem signatures_eq_of_same {procedures others : List Procedure}
    (same : procedures.map (fun procedure => (procedure.name, procedure.parameters)) =
      others.map fun procedure => (procedure.name, procedure.parameters)) :
    signatures procedures = signatures others := by
  have entries_same := congrArg
    (List.map fun (name, parameters) => (name, ({ name, parameters } : Signature))) same
  rw [List.map_map, List.map_map] at entries_same
  exact congrArg NameTable.ofFirst entries_same

/-- Of the procedures of a program, the robot types see nothing but the parameters of those that they
call. -/
theorem robotTypesFault?_eq_of_calls {robotTypes : List RobotType}
    {procedures others : List Procedure} (robots : List Text) (everyone : Option Text)
    (same_parameters : ∀ robotType ∈ robotTypes, ∀ statement ∈ robotType.body,
      ∀ name, statement.Calls name →
        ((signatures procedures).find? name).map (·.parameters) =
          ((signatures others).find? name).map (·.parameters)) :
    robotTypesFault? robotTypes procedures robots everyone =
      robotTypesFault? robotTypes others robots everyone := by
  have each_same : ∀ robotType ∈ robotTypes,
      robotType.fault? { robots, procedures := signatures procedures, everyone } =
        robotType.fault? { robots, procedures := signatures others, everyone } := by
    intro robotType robotType_member
    have agree : ∀ statement ∈ robotType.body, Surroundings.AgreesOn
        (Setting.around { robots, procedures := signatures procedures, everyone } robotType.scope)
        (Setting.around { robots, procedures := signatures others, everyone } robotType.scope)
        statement := fun statement member =>
      { used_variables := fun _ _ => rfl
        called_procedures := same_parameters robotType robotType_member statement member
        addressed_recipients := fun _ _ => .rfl }
    rw [RobotType.fault?, RobotType.fault?, RobotType.bodyFault?, RobotType.bodyFault?,
      Surroundings.bodyFault?_eq agree]
  rw [robotTypesFault?, robotTypesFault?]
  cases repetition? (robotTypes.map (·.name)) with
  | some repetition => rfl
  | none =>
      exact findSome?_eq_of_forall each_same

/-- Surroundings that agree on the variables, procedures and recipients that occur in a statement find
the same fault in it, or none in either.  So the robot types of a program get the same verdict whatever
stands in the procedures behind their names and parameters. -/
theorem checking_is_local :
    (∀ (around other : Surroundings) (statement : Statement), around.AgreesOn other statement →
      statement.fault? around = statement.fault? other) ∧
    ∀ (robotTypes : List RobotType) (procedures others : List Procedure) (robots : List Text)
      (everyone : Option Text),
      procedures.map (fun procedure => (procedure.name, procedure.parameters)) =
        others.map (fun procedure => (procedure.name, procedure.parameters)) →
      robotTypesFault? robotTypes procedures robots everyone =
        robotTypesFault? robotTypes others robots everyone := by
  refine ⟨fun around other statement agrees => agrees.fault?_eq, ?_⟩
  intro robotTypes procedures others robots everyone same
  refine robotTypesFault?_eq_of_calls robots everyone fun _ _ _ _ _ _ => ?_
  rw [signatures_eq_of_same same]

/-- A message in one branch and a call with a truth value for a count in the other one. -/
def relay : Statement :=
  .ifElse (.variable "done") (.exchange .send (.variable "count") "r1")
    (.call "advance" [.variable "done", .integer 1])

/-- Surroundings in which `r1` is a robot. -/
def crowd : Surroundings :=
  { scope := ⟨[("count", "numero"), ("done", "boolean")]⟩
    robots := ["r1"]
    procedures := ⟨[("advance", ⟨"advance", advance.parameters⟩)]⟩
    everyone := some "*" }

/-- Surroundings in which `r1` stands for every robot, with one more variable and procedure. -/
def desert : Surroundings :=
  { scope := ⟨[("steps", "numero"), ("done", "boolean"), ("count", "numero")]⟩
    robots := []
    procedures := ⟨[("halt", ⟨"halt", []⟩), ("advance", ⟨"advance", advance.parameters⟩)]⟩
    everyone := some "r1" }

/-- The call is blamed in both surroundings, and the same recipient of a sentry is unknown with and
without the variables and the body of its procedure. -/
theorem relay_judged_alike :
    crowd.AgreesOn desert relay ∧
      relay.fault? desert = some (.inElse (.mismatchedArgument 1 "advance" .numeric)) ∧
      robotTypesFault? [sentry] [{ advance with locals := [], body := [] }] [] none =
        some (.body "sentry" (.unknownRecipient "*" .send)) := by
  obtain ⟨alike, alike_behind⟩ := checking_is_local
  have looked_up_alike : ∀ statement : Statement,
      (∀ target value, statement ≠ .assign target value) →
      (∀ expression ∈ statement.expressions,
        expression ∈ [.variable "done", .variable "count", Expression.integer 1]) →
      ∀ name, statement.Mentions name → crowd.scope.find? name = desert.scope.find? name := by
    rintro statement no_assignment known name (⟨value, rfl⟩ | ⟨expression, member, reads⟩)
    · exact absurd rfl (no_assignment name value)
    · have among := known expression member
      simp only [List.mem_cons, List.not_mem_nil, or_false] at among
      rcases among with rfl | rfl | rfl <;>
        simp only [Expression.Reads, Expression.parts, List.mem_singleton, reduceCtorEq,
          Expression.variable.injEq] at reads
      all_goals
        subst reads
        decide
  have message_alike : crowd.AgreesOn desert (.exchange .send (.variable "count") "r1") := by
    refine .of_parts (by simp [Statement.parts])
      (looked_up_alike _ (by simp) (by simp [Statement.expressions])) (by simp) ?_
    rintro _ _ _ ⟨⟩
    simp [Surroundings.Reaches, crowd, desert]
  have call_alike :
      crowd.AgreesOn desert (.call "advance" [.variable "done", .integer 1]) := by
    refine .of_parts (by simp [Statement.parts])
      (looked_up_alike _ (by simp) (by simp [Statement.expressions])) ?_ (by simp)
    rintro _ _ ⟨⟩
    decide
  have agrees : crowd.AgreesOn desert relay := by
    refine .of_parts (fun part member => ?_)
      (looked_up_alike _ (by simp [relay]) (by simp [relay, Statement.expressions]))
      (by simp [relay]) (by simp [relay])
    rcases List.mem_pair.mp member with rfl | rfl
    · exact message_alike
    · exact call_alike
  exact ⟨agrees, (alike crowd desert relay agrees).symm,
    (alike_behind [sentry] [advance] _ [] none rfl).symm⟩

end RobotCity
