import RobotCity.Proofs.Acceptance
import RobotCity.Proofs.Statements.Locality

/-!
# Which declaration is to blame

A declaration is checked in four steps: its parameters, its local variables, what these hide, and its
body.  Among declarations of distinct names, the first one that fails is reported and named at the end
of the report.  The report does not depend on what stands in any other declaration, as long as those in
front still pass.
-/

namespace RobotCity

namespace Report

/-- A name stands twice among the parameters of a declaration. -/
def repeatedParameter (repetition : Repetition) : Report :=
  .fault "Invalid parameter declaration"
    s!"Identifier '{repetition.name}' is used in parameter {repetition.places}"

/-- A name stands twice among the local variables of a declaration. -/
def repeatedVariable (repetition : Repetition) : Report :=
  .fault "Invalid variable declaration"
    s!"Identifier '{repetition.name}' is used in variable {repetition.places}"

/-- A local variable hides a parameter of a declaration. -/
def hiddenParameter (name : Text) : Report :=
  .fault "Invalid variable declaration" s!"Variable '{name}' has the same name as a parameter"

end Report

namespace Declared

variable {declared : Declared}

/-- A local variable hides a parameter, and none in front of it does. -/
def HidesFirst (declared : Declared) (hider : Variable) : Prop :=
  ∃ front back, declared.locals = front ++ hider :: back ∧
    (∀ other ∈ front, other.name ∉ declared.parameters.map (·.name)) ∧
    hider.name ∈ declared.parameters.map (·.name)

/-- The first step at which the check of a declaration fails, as it is reported before the declaration
is named. -/
inductive FailsFirst (setting : Setting) (strict : Bool) (declared : Declared) : Report → Prop
  | parameters {repetition : Repetition} :
    repetition? (declared.parameters.map (·.name)) = some repetition →
    FailsFirst setting strict declared (.repeatedParameter repetition)
  | locals {repetition : Repetition} :
    (declared.parameters.map (·.name)).Nodup →
    repetition? (declared.locals.map (·.name)) = some repetition →
    FailsFirst setting strict declared (.repeatedVariable repetition)
  | hidden {hider : Variable} :
    declared.Distinct → strict → declared.HidesFirst hider →
    FailsFirst setting strict declared (.hiddenParameter hider.name)
  | body {fault : StatementFault} :
    declared.Distinct →
    (strict → ∀ one ∈ declared.locals, one.name ∉ declared.parameters.map (·.name)) →
    Statement.bodyFault? (setting.around declared.scope) declared.body = some fault →
    FailsFirst setting strict declared fault.report

/-- The first local variable that hides a parameter. -/
def hiding? (declared : Declared) : Option Variable :=
  declared.locals.find? fun one => (declared.parameters.map (·.name)).contains one.name

/-- The four steps of the check of a declaration. -/
def inner? (setting : Setting) (strict : Bool) (declared : Declared) : Option Report :=
  ((repetition? (declared.parameters.map (·.name))).map .repeatedParameter).or
    (((repetition? (declared.locals.map (·.name))).map .repeatedVariable).or
      (((if strict then declared.hiding? else none).map fun one => .hiddenParameter one.name).or
        ((Statement.bodyFault? (setting.around declared.scope) declared.body).map (·.report))))

theorem hiding?_eq_none_iff :
    declared.hiding? = none ↔
      ∀ one ∈ declared.locals, one.name ∉ declared.parameters.map (·.name) := by
  simp [hiding?]

theorem hiding?_eq_some_iff {hider : Variable} :
    declared.hiding? = some hider ↔ declared.HidesFirst hider := by
  simp only [hiding?, HidesFirst, List.find?_eq_some_iff_append,
    Bool.not_eq_true', List.contains_eq_mem, decide_eq_true_eq, decide_eq_false_iff_not]
  constructor
  · rintro ⟨hides, front, back, split_locals, clear⟩
    exact ⟨front, back, split_locals, clear, hides⟩
  · rintro ⟨front, back, split_locals, clear, hides⟩
    exact ⟨hides, front, back, split_locals, clear⟩

/-- The steps find what fails first. -/
theorem inner?_eq_some_iff {setting : Setting} {strict : Bool} {report : Report} :
    declared.inner? setting strict = some report ↔ declared.FailsFirst setting strict report := by
  have hiding_none : (if strict then declared.hiding? else none) = none ↔
      (strict → ∀ one ∈ declared.locals, one.name ∉ declared.parameters.map (·.name)) := by
    rw [ite_eq_right_iff, hiding?_eq_none_iff]
  simp only [inner?, Option.or_eq_some_iff, Option.map_eq_some_iff, Option.map_eq_none_iff,
    hiding_none, repetition?_eq_none_iff]
  constructor
  · rintro (⟨repetition, repeated, rfl⟩ | ⟨parameters_nodup, ⟨repetition, repeated, rfl⟩ |
      ⟨locals_nodup, ⟨hider, hides, rfl⟩ | ⟨none_hidden, fault, stopped, rfl⟩⟩⟩)
    · exact .parameters repeated
    · exact .locals parameters_nodup repeated
    · obtain ⟨is_strict, found⟩ := Option.ite_none_right_eq_some.mp hides
      exact .hidden ⟨locals_nodup, parameters_nodup⟩ is_strict (hiding?_eq_some_iff.mp found)
    · exact .body ⟨locals_nodup, parameters_nodup⟩ none_hidden stopped
  · intro fails
    cases fails with
    | parameters repeated => exact .inl ⟨_, repeated, rfl⟩
    | locals parameters_nodup repeated => exact .inr ⟨parameters_nodup, .inl ⟨_, repeated, rfl⟩⟩
    | hidden distinct is_strict hides =>
        exact .inr ⟨distinct.parameters_nodup, .inr ⟨distinct.locals_nodup, .inl
          ⟨_, Option.ite_none_right_eq_some.mpr ⟨is_strict, hiding?_eq_some_iff.mpr hides⟩, rfl⟩⟩⟩
    | body distinct none_hidden stopped =>
        exact .inr ⟨distinct.parameters_nodup, .inr ⟨distinct.locals_nodup, .inr
          ⟨none_hidden, _, stopped, rfl⟩⟩⟩

end Declared

/-- What is reported of a procedure is a fault inside it, with the procedure named at the end. -/
theorem Procedure.report_fault? (setting : Setting) (strict : Bool) (procedure : Procedure) :
    (procedure.fault? setting strict).map (·.report) =
      (procedure.declared.inner? setting strict).map
        (·.withContext (ProcedureFault.location procedure.name)) := by
  have hiding_same : (if strict then procedure.hidingFault? else none) =
      (if strict then procedure.declared.hiding? else none).map
        fun one => .hiddenParameter procedure.name one.name := by
    cases strict <;> rfl
  simp only [fault?, Declared.inner?, hiding_same, Option.map_or, parameterFault?, variableFault?,
    bodyFault?, Option.map_map]
  rfl

/-- What is reported of a robot type is a fault inside it, with the robot type named at the end. -/
theorem RobotType.report_fault? (setting : Setting) (robotType : RobotType) :
    (robotType.fault? setting).map (·.report) =
      (robotType.declared.inner? setting false).map
        (·.withContext (RobotTypeFault.location robotType.name)) := by
  have no_parameters : repetition? (robotType.declared.parameters.map (·.name)) = none := rfl
  simp only [fault?, Declared.inner?, no_parameters, Option.map_or, variableFault?,
    bodyFault?, Option.map_map, Option.map_none, Option.none_or]
  rfl

/-- Of some declarations the first one that fails is reported, and it is named once, at the end. -/
def BlamesFirst {α : Type} (Passes : α → Prop) (Fails : α → Report → Prop) (location : α → String)
    (items : List α) (report : Report) : Prop :=
  ∃ before item after inner, items = before ++ item :: after ∧ (∀ other ∈ before, Passes other) ∧
    Fails item inner ∧ report = { inner with context := inner.context ++ location item }

section Search

variable {α φ : Type} {search : α → Option φ} {reportOf : φ → Report} {inner? : α → Option Report}
  {location : α → String} {Passes : α → Prop} {Fails : α → Report → Prop}

/-- A search through declarations blames the first one that fails, if what it finds in each of them is
what fails there first. -/
theorem blamesFirst_iff (passes_iff : ∀ item, search item = none ↔ Passes item)
    (fails_iff : ∀ item inner, inner? item = some inner ↔ Fails item inner)
    (reported : ∀ item,
      (search item).map reportOf = (inner? item).map (·.withContext (location item)))
    {items : List α} {report : Report} :
    (items.findSome? search).map reportOf = some report ↔
      BlamesFirst Passes Fails location items report := by
  simp only [BlamesFirst, ← passes_iff, ← fails_iff]
  rw [Option.map_eq_some_iff]
  constructor
  · rintro ⟨found, first, rfl⟩
    obtain ⟨before, item, after, split_items, here, clear⟩ := List.findSome?_eq_some_iff.mp first
    have same := reported item
    rw [here, Option.map_some, eq_comm, Option.map_eq_some_iff] at same
    obtain ⟨inner, fails, located⟩ := same
    exact ⟨before, item, after, inner, split_items, clear, fails, located.symm⟩
  · rintro ⟨before, item, after, inner, split_items, clear, fails, rfl⟩
    have same := reported item
    rw [fails, Option.map_some, Option.map_eq_some_iff] at same
    obtain ⟨found, here, located⟩ := same
    exact ⟨found, by rw [split_items, findSome?_append_cons clear here], located⟩

end Search

variable {procedures others : List Procedure} {robotTypes : List RobotType} {robots : List Text}
  {everyone : Option Text} {strict : Bool}

theorem proceduresFault?_of_nodup (names_nodup : (procedures.map (·.name)).Nodup) :
    proceduresFault? procedures robots everyone strict =
      procedures.findSome?
        (Procedure.fault? { robots, procedures := signatures procedures, everyone } strict) := by
  rw [proceduresFault?, (repetition?_eq_none_iff _).mpr names_nodup]

theorem robotTypesFault?_of_nodup (names_nodup : (robotTypes.map (·.name)).Nodup) :
    robotTypesFault? robotTypes procedures robots everyone =
      robotTypes.findSome?
        (RobotType.fault? { robots, procedures := signatures procedures, everyone }) := by
  rw [robotTypesFault?, (repetition?_eq_none_iff _).mpr names_nodup]

/-- Whatever stands in the other procedures, the first one that fails gets the same report. -/
theorem proceduresFault?_eq_of_first {before after before' after' : List Procedure}
    {procedure : Procedure}
    (names_nodup : ((before ++ procedure :: after).map (·.name)).Nodup)
    (same : (before' ++ procedure :: after').map (fun other => (other.name, other.parameters)) =
      (before ++ procedure :: after).map fun other => (other.name, other.parameters))
    (passes : ∀ other ∈ before,
      other.Acceptable (before ++ procedure :: after) robots everyone strict)
    (passes' : ∀ other ∈ before',
      other.Acceptable (before' ++ procedure :: after') robots everyone strict)
    (fails : ¬procedure.Acceptable (before ++ procedure :: after) robots everyone strict) :
    proceduresFault? (before' ++ procedure :: after') robots everyone strict =
      proceduresFault? (before ++ procedure :: after) robots everyone strict := by
  have names_same : (before' ++ procedure :: after').map (·.name) =
      (before ++ procedure :: after).map (·.name) := by
    have firsts := congrArg (List.map Prod.fst) same
    rwa [List.map_map, List.map_map] at firsts
  rw [← Procedure.fault?_eq_none_iff] at fails
  obtain ⟨fault, here⟩ := Option.ne_none_iff_exists'.mp fails
  simp only [← Procedure.fault?_eq_none_iff] at passes passes'
  rw [signatures_eq_of_same same] at passes'
  rw [proceduresFault?_of_nodup (names_same ▸ names_nodup), proceduresFault?_of_nodup names_nodup,
    signatures_eq_of_same same, findSome?_append_cons passes here,
    findSome?_append_cons passes' here]

/-- Whatever the other robot types are, the first one that fails gets the same report. -/
theorem robotTypesFault?_eq_of_first {before after before' after' : List RobotType}
    {robotType : RobotType}
    (names_nodup : ((before ++ robotType :: after).map (·.name)).Nodup)
    (names_nodup' : ((before' ++ robotType :: after').map (·.name)).Nodup)
    (passes : ∀ other ∈ before, other.Acceptable procedures robots everyone)
    (passes' : ∀ other ∈ before', other.Acceptable procedures robots everyone)
    (fails : ¬robotType.Acceptable procedures robots everyone) :
    robotTypesFault? (before' ++ robotType :: after') procedures robots everyone =
      robotTypesFault? (before ++ robotType :: after) procedures robots everyone := by
  rw [← RobotType.fault?_eq_none_iff] at fails
  obtain ⟨fault, here⟩ := Option.ne_none_iff_exists'.mp fails
  simp only [← RobotType.fault?_eq_none_iff] at passes passes'
  rw [robotTypesFault?_of_nodup names_nodup, robotTypesFault?_of_nodup names_nodup',
    findSome?_append_cons passes here, findSome?_append_cons passes' here]

/-- Among declarations of distinct names the first one that fails is to blame: the report says what
fails first inside it, with its name added once.  For a procedure it is the same in every list with the
same names and parameters, for a robot type in every list of distinct names, as long as whatever stands
in front passes. -/
theorem first_failure_blamed (procedures : List Procedure) (robots : List Text)
    (everyone : Option Text) :
    (∀ strict, (procedures.map (·.name)).Nodup →
      (∀ report,
        (proceduresFault? procedures robots everyone strict).map (·.report) = some report ↔
          BlamesFirst (·.Acceptable procedures robots everyone strict)
            (·.declared.FailsFirst { robots, procedures := signatures procedures, everyone } strict)
            (fun procedure => s!", in the declaration of procedure '{procedure.name}'")
            procedures report) ∧
      ∀ before procedure after before' after', procedures = before ++ procedure :: after →
        (∀ other ∈ before, other.Acceptable procedures robots everyone strict) →
        ¬procedure.Acceptable procedures robots everyone strict →
        ∀ others, others = before' ++ procedure :: after' →
        others.map (fun other => (other.name, other.parameters)) =
          procedures.map (fun other => (other.name, other.parameters)) →
        (∀ other ∈ before', other.Acceptable others robots everyone strict) →
        proceduresFault? others robots everyone strict =
          proceduresFault? procedures robots everyone strict) ∧
    ∀ robotTypes : List RobotType, (robotTypes.map (·.name)).Nodup →
      (∀ report,
        (robotTypesFault? robotTypes procedures robots everyone).map (·.report) = some report ↔
          BlamesFirst (·.Acceptable procedures robots everyone)
            (·.declared.FailsFirst { robots, procedures := signatures procedures, everyone } false)
            (fun robotType => s!", in the declaration of robot type '{robotType.name}'")
            robotTypes report) ∧
      ∀ before robotType after before' after', robotTypes = before ++ robotType :: after →
        (∀ other ∈ before, other.Acceptable procedures robots everyone) →
        ¬robotType.Acceptable procedures robots everyone →
        ∀ others, others = before' ++ robotType :: after' → (others.map (·.name)).Nodup →
        (∀ other ∈ before', other.Acceptable procedures robots everyone) →
        robotTypesFault? others procedures robots everyone =
          robotTypesFault? robotTypes procedures robots everyone := by
  refine ⟨fun strict names_nodup => ⟨fun report => ?_, ?_⟩,
    fun robotTypes names_nodup => ⟨fun report => ?_, ?_⟩⟩
  · rw [proceduresFault?_of_nodup names_nodup]
    exact blamesFirst_iff (fun _ => Procedure.fault?_eq_none_iff)
      (fun _ _ => Declared.inner?_eq_some_iff) (Procedure.report_fault? _ strict)
  · rintro before procedure after before' after' rfl passes fails _ rfl same passes'
    exact proceduresFault?_eq_of_first names_nodup same passes passes' fails
  · rw [robotTypesFault?_of_nodup names_nodup]
    exact blamesFirst_iff (fun _ => RobotType.fault?_eq_none_iff)
      (fun _ _ => Declared.inner?_eq_some_iff) (RobotType.report_fault? _)
  · rintro before robotType after before' after' rfl passes fails _ rfl names_nodup' passes'
    exact robotTypesFault?_eq_of_first names_nodup names_nodup' passes passes' fails

/-- A procedure that takes a number for a truth value. -/
def stumble : Procedure :=
  { name := "stumble", parameters := [], locals := [⟨"done", .boolean⟩]
    body := [.assign "done" (.integer 1)] }

/-- A procedure that declares a variable twice. -/
def halt : Procedure :=
  { name := "halt", parameters := [], locals := [⟨"done", .boolean⟩, ⟨"done", .numeric⟩], body := [] }

/-- The second procedure is blamed, whatever stands in the first one, which passes, and in the third one,
which would fail; a robot type is blamed behind any other one that passes. -/
theorem stumble_blamed :
    BlamesFirst (·.Acceptable [advance, stumble, halt] [] none true)
        (·.declared.FailsFirst
          { robots := [], procedures := signatures [advance, stumble, halt], everyone := none } true)
        (fun procedure => s!", in the declaration of procedure '{procedure.name}'")
        [advance, stumble, halt]
        (ProcedureFault.body "stumble" (.mismatchedValue "done" "numero" "boolean")).report ∧
      proceduresFault? [{ advance with locals := [], body := [] }, stumble, { halt with locals := [] }]
        [] none true = some (.body "stumble" (.mismatchedValue "done" "numero" "boolean")) ∧
      robotTypesFault? [{ sentry with name := "idle", body := [] }, sentry] [advance] [] none =
        some (.body "sentry" (.unknownRecipient "*" .send)) := by
  have found : proceduresFault? [advance, stumble, halt] [] none true =
      some (.body "stumble" (.mismatchedValue "done" "numero" "boolean")) := by decide
  have found_type : robotTypesFault? [sentry] [advance] [] none =
      some (.body "sentry" (.unknownRecipient "*" .send)) := by decide
  obtain ⟨blamed, blamed_alike⟩ :=
    (first_failure_blamed [advance, stumble, halt] [] none).1 true (by decide)
  obtain ⟨-, type_blamed_alike⟩ := (first_failure_blamed [advance] [] none).2 [sentry] (by decide)
  refine ⟨(blamed _).mp (by rw [found]; rfl), ?_, ?_⟩
  · rw [← found]
    refine blamed_alike [advance] stumble [halt] [_] [_] rfl (List.forall_mem_singleton.mpr ?_) ?_ _
      rfl rfl (List.forall_mem_singleton.mpr ?_)
    · exact Procedure.fault?_eq_none_iff.mp (by decide)
    · rw [← Procedure.fault?_eq_none_iff]
      decide
    · exact Procedure.fault?_eq_none_iff.mp (by decide)
  · rw [← found_type]
    refine type_blamed_alike [] sentry [] [_] [] rfl (List.forall_mem_nil _) ?_ _ rfl (by decide)
      (List.forall_mem_singleton.mpr ?_)
    · rw [← RobotType.fault?_eq_none_iff]
      decide
    · exact RobotType.fault?_eq_none_iff.mp (by decide)

end RobotCity
