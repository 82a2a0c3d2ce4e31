import Mathlib.Data.List.Forall2
import RobotCity.Check.Statements

/-!
# Rules of statements

A statement is accepted by rules that speak of its own parts alone, one rule for each kind of
statement.  The check finds no fault exactly in the statements that are accepted, however deep they
are nested.
-/

namespace RobotCity

/-- An expression may stand for a parameter in a call. -/
inductive Surroundings.Passes (around : Surroundings) : Parameter → Expression → Prop
  /-- By reference goes a variable of the type of the parameter, and nothing else. -/
  | byReference {name given : Text} {type : ValueType} :
    around.scope.find? given = some type.token →
    Passes around { passing := .byReference, name, type } (.variable given)
  /-- By value goes every expression of the type of the parameter. -/
  | byValue {name : Text} {type : ValueType} {argument : Expression} :
    argument.infer around.scope = .ok type.token →
    Passes around { passing := .byValue, name, type } argument

/-- The rules under which a statement is accepted. -/
inductive Statement.Accepted (around : Surroundings) : Statement → Prop
  | assign {target type : Text} {value : Expression} :
    around.scope.find? target = some type → value.infer around.scope = .ok type →
    Accepted around (.assign target value)
  | block {body : List Statement} :
    (∀ statement ∈ body, Accepted around statement) → Accepted around (.block body)
  | ifThen {condition : Expression} {body : Statement} :
    condition.infer around.scope = .ok ValueType.boolean.token → Accepted around body →
    Accepted around (.ifThen condition body)
  | ifElse {condition : Expression} {body otherwise : Statement} :
    condition.infer around.scope = .ok ValueType.boolean.token → Accepted around body →
    Accepted around otherwise → Accepted around (.ifElse condition body otherwise)
  | times {count : Expression} {body : Statement} :
    count.infer around.scope = .ok ValueType.numeric.token → Accepted around body →
    Accepted around (.times count body)
  | loop {condition : Expression} {body : Statement} :
    condition.infer around.scope = .ok ValueType.boolean.token → Accepted around body →
    Accepted around (.loop condition body)
  | informText {content : Text} : Accepted around (.inform (.text content) none)
  | informTextValue {content type : Text} {value : Expression} :
    value.infer around.scope = .ok type →
    Accepted around (.inform (.text content) (some value))
  | informValue {type : Text} {first : Expression} {second : Option Expression} :
    first.infer around.scope = .ok type → Accepted around (.inform (.value first) second)
  | moveTo {x y : Expression} :
    x.infer around.scope = .ok ValueType.numeric.token →
    y.infer around.scope = .ok ValueType.numeric.token → Accepted around (.moveTo x y)
  | exchange {mode : MessageMode} {value : Expression} {type recipient : Text} :
    value.infer around.scope = .ok type →
    around.everyone = some recipient ∨ recipient ∈ around.robots →
    Accepted around (.exchange mode value recipient)
  | corner {mode : CornerMode} {x y : Expression} :
    x.infer around.scope = .ok ValueType.numeric.token →
    y.infer around.scope = .ok ValueType.numeric.token → Accepted around (.corner mode x y)
  | call {procedure : Text} {arguments : List Expression} {signature : Signature} :
    around.procedures.find? procedure = some signature →
    List.Forall₂ around.Passes signature.parameters arguments →
    Accepted around (.call procedure arguments)

namespace Statement

variable {around : Surroundings} {condition : Expression} {statement otherwise : Statement}

theorem accepted_block_iff {body : List Statement} :
    (Statement.block body).Accepted around ↔ ∀ statement ∈ body, statement.Accepted around :=
  ⟨fun | .block all_accepted => all_accepted, .block⟩

theorem accepted_ifThen_iff :
    (Statement.ifThen condition statement).Accepted around ↔
      condition.infer around.scope = .ok ValueType.boolean.token ∧ statement.Accepted around :=
  ⟨fun | .ifThen typed accepted => ⟨typed, accepted⟩, fun ⟨typed, accepted⟩ => .ifThen typed accepted⟩

theorem accepted_ifElse_iff :
    (Statement.ifElse condition statement otherwise).Accepted around ↔
      condition.infer around.scope = .ok ValueType.boolean.token ∧ statement.Accepted around ∧
        otherwise.Accepted around :=
  ⟨fun | .ifElse typed accepted other_accepted => ⟨typed, accepted, other_accepted⟩,
    fun ⟨typed, accepted, other_accepted⟩ => .ifElse typed accepted other_accepted⟩

theorem accepted_times_iff :
    (Statement.times condition statement).Accepted around ↔
      condition.infer around.scope = .ok ValueType.numeric.token ∧ statement.Accepted around :=
  ⟨fun | .times typed accepted => ⟨typed, accepted⟩, fun ⟨typed, accepted⟩ => .times typed accepted⟩

theorem accepted_loop_iff :
    (Statement.loop condition statement).Accepted around ↔
      condition.infer around.scope = .ok ValueType.boolean.token ∧ statement.Accepted around :=
  ⟨fun | .loop typed accepted => ⟨typed, accepted⟩, fun ⟨typed, accepted⟩ => .loop typed accepted⟩

end Statement

namespace Surroundings

variable {around : Surroundings}

theorem assignFault?_eq_none_iff {target : Text} {value : Expression} :
    around.assignFault? target value = none ↔
      ∃ type, around.scope.find? target = some type ∧ value.infer around.scope = .ok type := by
  unfold assignFault?
  cases around.scope.find? target with
  | none => simp
  | some declared =>
      cases value.infer around.scope with
      | error reason => simp
      | ok found => simp [eq_comm]

theorem conditionFault?_eq_none_iff {control : Control} {condition : Expression} :
    around.conditionFault? control condition = none ↔
      condition.infer around.scope = .ok control.type.token := by
  unfold conditionFault?
  cases condition.infer around.scope <;> simp

theorem informFault?_eq_none_iff {notice : Notice} {value : Option Expression} :
    around.informFault? notice value = none ↔ (Statement.inform notice value).Accepted around := by
  constructor
  · intro faultless
    cases notice with
    | text content =>
        cases value with
        | none => exact .informText
        | some value =>
            cases inferred : value.infer around.scope with
            | error reason => simp [informFault?, inferred] at faultless
            | ok type => exact .informTextValue inferred
    | value first =>
        cases inferred : first.infer around.scope with
        | error reason => simp [informFault?, inferred] at faultless
        | ok type => exact .informValue inferred
  · intro accepted
    cases accepted with
    | informText => rfl
    | informTextValue inferred => simp [informFault?, inferred]
    | informValue inferred => simp [informFault?, inferred]

theorem coordinateFault?_eq_none_iff {keyword : String} {axis : Axis} {coordinate : Expression} :
    around.coordinateFault? keyword axis coordinate = none ↔
      coordinate.infer around.scope = .ok ValueType.numeric.token := by
  unfold coordinateFault?
  cases coordinate.infer around.scope <;> simp

theorem cornerFault?_eq_none_iff {keyword : String} {x y : Expression} :
    around.cornerFault? keyword x y = none ↔
      x.infer around.scope = .ok ValueType.numeric.token ∧
        y.infer around.scope = .ok ValueType.numeric.token := by
  rw [cornerFault?, Option.or_eq_none_iff, coordinateFault?_eq_none_iff,
    coordinateFault?_eq_none_iff]

theorem exchangeFault?_eq_none_iff {mode : MessageMode} {value : Expression} {recipient : Text} :
    around.exchangeFault? mode value recipient = none ↔
      (∃ type, value.infer around.scope = .ok type) ∧
        (around.everyone = some recipient ∨ recipient ∈ around.robots) := by
  unfold exchangeFault?
  cases value.infer around.scope with
  | error reason => simp
  | ok found =>
      by_cases known : around.everyone = some recipient ∨ recipient ∈ around.robots
      · simp [known]
      · simp [known]

theorem argumentFault?_eq_none_iff {procedure : Text} {position : Nat} {parameter : Parameter}
    {argument : Expression} :
    around.argumentFault? procedure position parameter argument = none ↔
      around.Passes parameter argument := by
  obtain ⟨passing, name, type⟩ := parameter
  constructor
  · intro faultless
    unfold argumentFault? at faultless
    cases passing with
    | byReference =>
        split at faultless
        · rename_i given _
          apply Passes.byReference
          cases found : around.scope.find? given with
          | none => simp [found] at faultless
          | some declared => simpa [found] using faultless
        · cases faultless
        · contradiction
    | byValue =>
        apply Passes.byValue
        cases inferred : argument.infer around.scope with
        | error reason => simp [inferred] at faultless
        | ok found => simpa [inferred] using faultless
  · intro passes
    cases passes with
    | byReference found => simp [argumentFault?, found]
    | byValue inferred => simp [argumentFault?, inferred]

theorem argumentsFault?_eq_none_iff {procedure : Text} {position : Nat}
    {parameters : List Parameter} {arguments : List Expression}
    (same_length : parameters.length = arguments.length) :
    around.argumentsFault? procedure position parameters arguments = none ↔
      List.Forall₂ around.Passes parameters arguments := by
  induction parameters generalizing position arguments with
  | nil =>
      obtain rfl : arguments = [] := List.length_eq_zero_iff.mp same_length.symm
      simp [argumentsFault?]
  | cons parameter rest ih =>
      cases arguments with
      | nil => simp at same_length
      | cons argument others =>
          have rest_length : rest.length = others.length := by simpa using same_length
          rw [argumentsFault?, Option.or_eq_none_iff, argumentFault?_eq_none_iff,
            ih rest_length, List.forall₂_cons]

theorem callFault?_eq_none_iff {procedure : Text} {arguments : List Expression} :
    around.callFault? procedure arguments = none ↔
      ∃ signature, around.procedures.find? procedure = some signature ∧
        List.Forall₂ around.Passes signature.parameters arguments := by
  unfold callFault?
  cases around.procedures.find? procedure with
  | none => simp
  | some signature =>
      simp only [Option.some.injEq, exists_eq_left']
      rcases Nat.lt_trichotomy arguments.length signature.parameters.length with
        fewer | same | more
      · rw [if_pos fewer]
        refine ⟨(nomatch ·), fun passes => ?_⟩
        have := passes.length_eq
        omega
      · rw [if_neg (by omega), if_neg (by omega)]
        exact argumentsFault?_eq_none_iff same.symm
      · rw [if_neg (by omega), if_pos more]
        refine ⟨(nomatch ·), fun passes => ?_⟩
        have := passes.length_eq
        omega

end Surroundings

namespace Statement

variable {around : Surroundings}

mutual

/-- Only accepted statements are faultless. -/
theorem accepted_of_faultless (statement : Statement) (faultless : statement.fault? around = none) :
    statement.Accepted around := by
  cases statement with
  | assign target value =>
      obtain ⟨type, found, inferred⟩ := Surroundings.assignFault?_eq_none_iff.mp faultless
      exact .assign found inferred
  | block body => exact .block (all_accepted_of_faultless body faultless)
  | ifThen condition body =>
      obtain ⟨typed, body_faultless⟩ := Option.or_eq_none_iff.mp faultless
      exact .ifThen (Surroundings.conditionFault?_eq_none_iff.mp typed)
        (accepted_of_faultless body body_faultless)
  | ifElse condition body otherwise =>
      obtain ⟨front_faultless, otherwise_faultless⟩ := Option.or_eq_none_iff.mp faultless
      obtain ⟨typed, body_faultless⟩ := Option.or_eq_none_iff.mp front_faultless
      exact .ifElse (Surroundings.conditionFault?_eq_none_iff.mp typed)
        (accepted_of_faultless body body_faultless)
        (accepted_of_faultless otherwise (Option.map_eq_none_iff.mp otherwise_faultless))
  | times count body =>
      obtain ⟨typed, body_faultless⟩ := Option.or_eq_none_iff.mp faultless
      exact .times (Surroundings.conditionFault?_eq_none_iff.mp typed)
        (accepted_of_faultless body body_faultless)
  | loop condition body =>
      obtain ⟨typed, body_faultless⟩ := Option.or_eq_none_iff.mp faultless
      exact .loop (Surroundings.conditionFault?_eq_none_iff.mp typed)
        (accepted_of_faultless body body_faultless)
  | inform notice value => exact Surroundings.informFault?_eq_none_iff.mp faultless
  | moveTo x y =>
      obtain ⟨x_typed, y_typed⟩ := Surroundings.cornerFault?_eq_none_iff.mp faultless
      exact .moveTo x_typed y_typed
  | exchange mode value recipient =>
      obtain ⟨⟨type, inferred⟩, known⟩ := Surroundings.exchangeFault?_eq_none_iff.mp faultless
      exact .exchange inferred known
  | corner mode x y =>
      obtain ⟨x_typed, y_typed⟩ := Surroundings.cornerFault?_eq_none_iff.mp faultless
      exact .corner x_typed y_typed
  | call procedure arguments =>
      obtain ⟨signature, found, passes⟩ := Surroundings.callFault?_eq_none_iff.mp faultless
      exact .call found passes

theorem all_accepted_of_faultless (body : List Statement)
    (faultless : bodyFault? around body = none) :
    ∀ statement ∈ body, statement.Accepted around := by
  cases body with
  | nil => simp
  | cons first rest =>
      obtain ⟨first_faultless, rest_faultless⟩ := Option.or_eq_none_iff.mp faultless
      exact List.forall_mem_cons.mpr ⟨accepted_of_faultless first first_faultless,
        all_accepted_of_faultless rest rest_faultless⟩

end

theorem bodyFault?_eq_none_of_all {body : List Statement}
    (faultless : ∀ statement ∈ body, statement.fault? around = none) :
    bodyFault? around body = none := by
  induction body with
  | nil => rfl
  | cons first rest ih =>
      obtain ⟨first_faultless, rest_faultless⟩ := List.forall_mem_cons.mp faultless
      rw [bodyFault?, first_faultless, ih rest_faultless]
      rfl

/-- Accepted statements are faultless. -/
theorem faultless_of_accepted {statement : Statement} (accepted : statement.Accepted around) :
    statement.fault? around = none := by
  -- By the rules and not by the tree, since a block has its parts in a list.
  induction accepted with
  | assign found inferred =>
      exact Surroundings.assignFault?_eq_none_iff.mpr ⟨_, found, inferred⟩
  | block _ body_faultless => exact bodyFault?_eq_none_of_all body_faultless
  | ifThen typed _ body_faultless =>
      rw [fault?, Surroundings.conditionFault?_eq_none_iff.mpr typed, body_faultless]
      rfl
  | ifElse typed _ _ body_faultless otherwise_faultless =>
      rw [fault?, Surroundings.conditionFault?_eq_none_iff.mpr typed, body_faultless,
        otherwise_faultless]
      rfl
  | times typed _ body_faultless =>
      rw [fault?, Surroundings.conditionFault?_eq_none_iff.mpr typed, body_faultless]
      rfl
  | loop typed _ body_faultless =>
      rw [fault?, Surroundings.conditionFault?_eq_none_iff.mpr typed, body_faultless]
      rfl
  | informText => exact Surroundings.informFault?_eq_none_iff.mpr .informText
  | informTextValue inferred =>
      exact Surroundings.informFault?_eq_none_iff.mpr (.informTextValue inferred)
  | informValue inferred =>
      exact Surroundings.informFault?_eq_none_iff.mpr (.informValue inferred)
  | moveTo x_typed y_typed =>
      exact Surroundings.cornerFault?_eq_none_iff.mpr ⟨x_typed, y_typed⟩
  | exchange inferred known =>
      exact Surroundings.exchangeFault?_eq_none_iff.mpr ⟨⟨_, inferred⟩, known⟩
  | corner x_typed y_typed =>
      exact Surroundings.cornerFault?_eq_none_iff.mpr ⟨x_typed, y_typed⟩
  | call found passes => exact Surroundings.callFault?_eq_none_iff.mpr ⟨_, found, passes⟩

/-- A body is faultless exactly if all of its statements are accepted. -/
theorem bodyFault?_eq_none_iff {body : List Statement} :
    bodyFault? around body = none ↔ ∀ statement ∈ body, statement.Accepted around :=
  ⟨all_accepted_of_faultless body, fun accepted => bodyFault?_eq_none_of_all
    fun statement member => faultless_of_accepted (accepted statement member)⟩

/-- The check of statements is sound and complete for the rules. -/
theorem fault?_eq_none_iff_accepted (around : Surroundings) (statement : Statement) :
    statement.fault? around = none ↔ statement.Accepted around :=
  ⟨accepted_of_faultless statement, faultless_of_accepted⟩

end Statement
end RobotCity
