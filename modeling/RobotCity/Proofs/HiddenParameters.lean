import RobotCity.Proofs.DeclarationFaults

/-!
# Hidden parameters

A strict check refuses local variables that hide parameters, and changes nothing else.  Where nothing is
hidden it finds what a lenient check finds, in a scope that is the same whichever declarations count
first.  Otherwise it reports the first variable that hides a parameter, unless a lenient check stops even
before the body of this procedure.
-/

namespace RobotCity

namespace Procedure

variable {procedure : Procedure}

/-- A local variable hides a parameter. -/
def Hides (procedure : Procedure) : Prop :=
  ∃ one ∈ procedure.locals, one.name ∈ procedure.parameters.map (·.name)

/-- The scope of a body if a parameter hid a local variable. -/
def parametersFirst (procedure : Procedure) : Scope :=
  .ofFirst (procedure.parameters.map (fun declared => (declared.name, declared.type.token)) ++
    procedure.locals.map (fun declared => (declared.name, declared.type.token)))

/-- Where nothing is hidden, it does not matter which declarations count first. -/
theorem find?_scope_of_not_hides (none_hidden : ¬procedure.Hides) (name : Text) :
    procedure.scope.find? name = procedure.parametersFirst.find? name := by
  let own : Scope := ⟨procedure.locals.map fun declared => (declared.name, declared.type.token)⟩
  let given : Scope := ⟨procedure.parameters.map fun declared => (declared.name, declared.type.token)⟩
  have own_names : own.names = procedure.locals.map (·.name) := List.map_map
  have given_names : given.names = procedure.parameters.map (·.name) := List.map_map
  -- One of the two lists does not declare the name.
  have one_sided : own.find? name = none ∨ given.find? name = none := by
    by_cases declared : name ∈ own.names
    · refine .inr (NameTable.find?_eq_none_iff.mpr fun hidden => ?_)
      rw [own_names] at declared
      rw [given_names] at hidden
      obtain ⟨one, member, rfl⟩ := List.mem_map.mp declared
      exact none_hidden ⟨one, member, hidden⟩
    · exact .inl (NameTable.find?_eq_none_iff.mpr declared)
  rw [scope, scopeOf, parametersFirst, NameTable.find?_ofFirst, NameTable.find?_ofFirst,
    List.lookup_append, List.lookup_append]
  change (own.find? name).or (given.find? name) = (given.find? name).or (own.find? name)
  rcases one_sided with absent | absent <;> rw [absent, Option.or_none, Option.none_or]

end Procedure

namespace ProcedureFault

/-- The procedure in whose declaration a fault lies, if it lies in one. -/
def procedure? : ProcedureFault → Option Text
  | .repeated _ => none
  | .repeatedParameter procedure _ | .repeatedVariable procedure _
  | .hiddenParameter procedure _ | .body procedure _ => some procedure

/-- A fault is met before it is asked what a procedure hides: names of procedures that are repeated, a
fault in a procedure in front, or names that are repeated in the procedure itself. -/
inductive Precedes (before : List Procedure) (procedure : Procedure) : ProcedureFault → Prop
  | repeated (repetition : Repetition) : Precedes before procedure (.repeated repetition)
  | inFront {fault : ProcedureFault} {other : Procedure} :
    other ∈ before → fault.procedure? = some other.name → Precedes before procedure fault
  | repeatedParameter (repetition : Repetition) :
    Precedes before procedure (.repeatedParameter procedure.name repetition)
  | repeatedVariable (repetition : Repetition) :
    Precedes before procedure (.repeatedVariable procedure.name repetition)

end ProcedureFault

namespace Procedure

variable {setting : Setting} {procedure : Procedure} {fault : ProcedureFault}

/-- The fault of names that are repeated in a procedure. -/
def namesFault? (procedure : Procedure) : Option ProcedureFault :=
  procedure.parameterFault?.or procedure.variableFault?

theorem eq_of_namesFault? (found : procedure.namesFault? = some fault) :
    ∃ repetition, fault = .repeatedParameter procedure.name repetition ∨
      fault = .repeatedVariable procedure.name repetition := by
  rcases Option.or_eq_some_iff.mp found with of_parameters | ⟨-, of_locals⟩
  · obtain ⟨repetition, -, rfl⟩ := Option.map_eq_some_iff.mp of_parameters
    exact ⟨repetition, .inl rfl⟩
  · obtain ⟨repetition, -, rfl⟩ := Option.map_eq_some_iff.mp of_locals
    exact ⟨repetition, .inr rfl⟩

theorem precedes_of_namesFault? (before : List Procedure)
    (found : procedure.namesFault? = some fault) : fault.Precedes before procedure := by
  obtain ⟨repetition, rfl | rfl⟩ := eq_of_namesFault? found
  · exact .repeatedParameter repetition
  · exact .repeatedVariable repetition

theorem eq_of_bodyFault? (found : procedure.bodyFault? setting = some fault) :
    ∃ inner, fault = .body procedure.name inner := by
  obtain ⟨inner, -, rfl⟩ := Option.map_eq_some_iff.mp found
  exact ⟨inner, rfl⟩

theorem fault?_lenient_eq :
    procedure.fault? setting false = procedure.namesFault?.or (procedure.bodyFault? setting) := by
  rw [fault?, namesFault?, Option.or_assoc]
  rfl

theorem not_hides_iff : ¬procedure.Hides ↔ procedure.hidingFault? = none := by
  simp only [hidingFault?_eq_none_iff, Hides, not_exists, not_and]

/-- A strict check of a procedure that hides nothing is a lenient one. -/
theorem fault?_strict_of_not_hides (none_hidden : ¬procedure.Hides) :
    procedure.fault? setting true = procedure.fault? setting false := by
  rw [fault?, fault?, not_hides_iff.mp none_hidden]
  rfl

/-- A strict check of a procedure ends at the first variable that hides a parameter, and never reaches
the body. -/
theorem fault?_strict_of_hidesFirst {hider : Variable}
    (hides : procedure.declared.HidesFirst hider) :
    procedure.fault? setting true =
      procedure.namesFault?.or (some (.hiddenParameter procedure.name hider.name)) := by
  have found : procedure.hidingFault? = some (.hiddenParameter procedure.name hider.name) :=
    congrArg (Option.map _) (Declared.hiding?_eq_some_iff.mpr hides)
  rw [fault?, found, namesFault?, Option.or_assoc]
  rfl

/-- A fault that is found in a procedure lies in it. -/
theorem procedure?_of_fault? (found : procedure.fault? setting false = some fault) :
    fault.procedure? = some procedure.name := by
  rw [fault?_lenient_eq] at found
  rcases Option.or_eq_some_iff.mp found with of_names | ⟨-, of_body⟩
  · obtain ⟨repetition, rfl | rfl⟩ := eq_of_namesFault? of_names <;> rfl
  · obtain ⟨inner, rfl⟩ := eq_of_bodyFault? of_body
    rfl

end Procedure

section Checks

variable {procedures before after : List Procedure} {procedure : Procedure} {robots : List Text}
  {everyone : Option Text} {setting : Setting} {fault : ProcedureFault}

theorem findSome?_strict_of_not_hides (none_hidden : ∀ procedure ∈ procedures, ¬procedure.Hides) :
    procedures.findSome? (Procedure.fault? setting true) =
      procedures.findSome? (Procedure.fault? setting false) :=
  findSome?_eq_of_forall fun procedure member =>
    Procedure.fault?_strict_of_not_hides (none_hidden procedure member)

/-- A strict check of procedures that hide nothing is a lenient one. -/
theorem proceduresFault?_strict_of_not_hides
    (none_hidden : ∀ procedure ∈ procedures, ¬procedure.Hides) :
    proceduresFault? procedures robots everyone true =
      proceduresFault? procedures robots everyone false := by
  rw [proceduresFault?, proceduresFault?]
  split
  · rfl
  · exact findSome?_strict_of_not_hides none_hidden

/-- What a lenient check finds in the body of a procedure or behind it does not come before the question
what the procedure hides. -/
theorem not_precedes_of_later
    (names_nodup : ((before ++ procedure :: after).map (·.name)).Nodup)
    (later : procedure.bodyFault? setting = some fault ∨
      after.findSome? (Procedure.fault? setting false) = some fault) :
    ¬fault.Precedes before procedure := by
  rw [List.map_append, List.map_cons, List.nodup_append] at names_nodup
  obtain ⟨-, rest_nodup, apart⟩ := names_nodup
  have not_in_front : ∀ other ∈ procedure :: after, fault.procedure? = some other.name →
      ∀ first ∈ before, fault.procedure? ≠ some first.name := by
    intro other other_member of_other first first_member of_first
    exact apart _ (List.mem_map_of_mem first_member) _
      (List.mem_map_of_mem (f := (·.name)) other_member)
      (Option.some.inj (of_first.symm.trans of_other))
  rcases later with of_body | behind
  · obtain ⟨inner, rfl⟩ := Procedure.eq_of_bodyFault? of_body
    intro precedes
    cases precedes with
    | inFront member of_first => exact not_in_front procedure List.mem_cons_self rfl _ member of_first
  · obtain ⟨other, member, found⟩ := List.exists_of_findSome?_eq_some behind
    have of_other := Procedure.procedure?_of_fault? found
    have names_differ : procedure.name ≠ other.name := fun same =>
      (List.nodup_cons.mp rest_nodup).1 (List.mem_map.mpr ⟨other, member, same.symm⟩)
    intro precedes
    cases precedes with
    | repeated => cases of_other
    | inFront first_member of_first =>
        exact not_in_front other (List.mem_cons_of_mem _ member) of_other _ first_member of_first
    | repeatedParameter => exact names_differ (Option.some.inj of_other)
    | repeatedVariable => exact names_differ (Option.some.inj of_other)

/-- A strict check of procedures of which one hides a parameter stops where a lenient check does, if that
is before this is asked, and else at the variable that hides. -/
theorem strict_of_hidesFirst (robots : List Text) (everyone : Option Text) (after : List Procedure)
    {hider : Variable} (clear : ∀ other ∈ before, ¬other.Hides)
    (hides : procedure.declared.HidesFirst hider) :
    (∃ fault : ProcedureFault, fault.Precedes before procedure ∧
      proceduresFault? (before ++ procedure :: after) robots everyone false = some fault ∧
      proceduresFault? (before ++ procedure :: after) robots everyone true = some fault) ∨
    ((∀ fault, proceduresFault? (before ++ procedure :: after) robots everyone false = some fault →
        ¬fault.Precedes before procedure) ∧
      proceduresFault? (before ++ procedure :: after) robots everyone true =
        some (.hiddenParameter procedure.name hider.name)) := by
  cases repetition : repetition? ((before ++ procedure :: after).map (·.name)) with
  | some twice =>
      refine .inl ⟨.repeated twice, .repeated twice, ?_, ?_⟩ <;> rw [proceduresFault?, repetition]
  | none =>
      have names_nodup := (repetition?_eq_none_iff _).mp repetition
      rw [proceduresFault?_of_nodup names_nodup, proceduresFault?_of_nodup names_nodup,
        List.findSome?_append, List.findSome?_append, findSome?_strict_of_not_hides clear]
      cases early : before.findSome? (Procedure.fault? _ false) with
      | some fault =>
          obtain ⟨other, member, found⟩ := List.exists_of_findSome?_eq_some early
          exact .inl ⟨fault, .inFront member (Procedure.procedure?_of_fault? found), rfl, rfl⟩
      | none =>
          rw [Option.none_or, Option.none_or, List.findSome?_cons, List.findSome?_cons,
            Procedure.fault?_strict_of_hidesFirst hides, Procedure.fault?_lenient_eq]
          cases names : procedure.namesFault? with
          | some fault =>
              exact .inl ⟨fault, Procedure.precedes_of_namesFault? before names, rfl, rfl⟩
          | none =>
              refine .inr ⟨fun fault later => ?_, rfl⟩
              rw [Option.none_or] at later
              split at later
              · rename_i of_body
                cases later
                exact not_precedes_of_later names_nodup (.inl of_body)
              · exact not_precedes_of_later names_nodup (.inr later)

end Checks

/-- Where no procedure hides a parameter, a check finds the same whether it is strict or not, and every
scope is the same whether local variables or parameters count first.  Otherwise, at the first procedure
with a local variable that hides a parameter, a strict check finds what a lenient one does if this comes
before the question what is hidden, and else it reports the first such variable. -/
theorem strict_scopes (procedures : List Procedure) (robots : List Text) (everyone : Option Text) :
    ((∀ procedure ∈ procedures, ¬procedure.Hides) →
      proceduresFault? procedures robots everyone true =
          proceduresFault? procedures robots everyone false ∧
        ∀ procedure ∈ procedures, ∀ name,
          procedure.scope.find? name = procedure.parametersFirst.find? name) ∧
    ∀ before procedure after hider, procedures = before ++ procedure :: after →
      (∀ other ∈ before, ¬other.Hides) → procedure.declared.HidesFirst hider →
      (∀ fault, proceduresFault? procedures robots everyone false = some fault →
        fault.Precedes before procedure →
        proceduresFault? procedures robots everyone true = some fault) ∧
      ((∀ fault, proceduresFault? procedures robots everyone false = some fault →
          ¬fault.Precedes before procedure) →
        (proceduresFault? procedures robots everyone true).map (·.report) =
          some (.fault "Invalid variable declaration"
            (s!"Variable '{hider.name}' has the same name as a parameter" ++
              s!", in the declaration of procedure '{procedure.name}'"))) := by
  refine ⟨fun none_hidden => ⟨proceduresFault?_strict_of_not_hides none_hidden,
    fun procedure member => Procedure.find?_scope_of_not_hides (none_hidden procedure member)⟩, ?_⟩
  rintro before procedure after hider rfl clear hides
  rcases strict_of_hidesFirst robots everyone after clear hides with
    ⟨fault, precedes, lenient, strict⟩ | ⟨not_precedes, strict⟩
  · refine ⟨fun other found _ => ?_, fun none_precedes => absurd precedes (none_precedes fault lenient)⟩
    cases lenient.symm.trans found
    exact strict
  · exact ⟨fun fault found precedes => absurd precedes (not_precedes fault found),
      fun _ => by rw [strict]; rfl⟩

/-- A truth value named like a number. -/
def hiddenSteps : Variable := ⟨"steps", .boolean⟩

/-- A procedure that hides the number that it is given, and assigns to it all the same. -/
def hasty : Procedure :=
  { name := "hasty", parameters := [⟨.byValue, "steps", .numeric⟩]
    locals := [⟨"done", .boolean⟩, hiddenSteps], body := [.assign "steps" (.integer 1)] }

/-- A fault in front of the hasty procedure is found in any case, one in its body only by a lenient
check. -/
theorem hasty_refused :
    proceduresFault? [advance] [] none true = proceduresFault? [advance] [] none false ∧
      proceduresFault? [stumble, hasty] [] none true =
        some (.body "stumble" (.mismatchedValue "done" "numero" "boolean")) ∧
      proceduresFault? [advance, hasty, stumble] [] none false =
        some (.body "hasty" (.mismatchedValue "steps" "numero" "boolean")) ∧
      (proceduresFault? [advance, hasty, stumble] [] none true).map (·.report) =
        some (.fault "Invalid variable declaration"
          (s!"Variable '{hiddenSteps.name}' has the same name as a parameter" ++
            s!", in the declaration of procedure '{hasty.name}'")) := by
  have advance_clear : ∀ other ∈ [advance], ¬other.Hides :=
    List.forall_mem_singleton.mpr (Procedure.not_hides_iff.mpr (by decide))
  have stumble_clear : ∀ other ∈ [stumble], ¬other.Hides :=
    List.forall_mem_singleton.mpr (Procedure.not_hides_iff.mpr (by decide))
  have hides : hasty.declared.HidesFirst hiddenSteps :=
    ⟨[⟨"done", .boolean⟩], [], rfl, by decide, by decide⟩
  have stumbles : proceduresFault? [stumble, hasty] [] none false =
      some (.body "stumble" (.mismatchedValue "done" "numero" "boolean")) := by decide
  have lenient : proceduresFault? [advance, hasty, stumble] [] none false =
      some (.body "hasty" (.mismatchedValue "steps" "numero" "boolean")) := by decide
  obtain ⟨alike, -⟩ := strict_scopes [advance] [] none
  obtain ⟨-, in_front⟩ := strict_scopes [stumble, hasty] [] none
  obtain ⟨-, at_hasty⟩ := strict_scopes [advance, hasty, stumble] [] none
  refine ⟨(alike advance_clear).1, ?_, lenient, ?_⟩
  · exact (in_front [stumble] hasty [] hiddenSteps rfl stumble_clear hides).1 _ stumbles
      (.inFront (List.mem_singleton_self stumble) rfl)
  · refine (at_hasty [advance] hasty [stumble] hiddenSteps rfl advance_clear hides).2 ?_
    intro fault found precedes
    cases lenient.symm.trans found
    cases precedes with
    | inFront member named =>
        rw [List.mem_singleton.mp member] at named
        revert named
        decide

end RobotCity
