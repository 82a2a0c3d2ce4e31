import RobotCity.Proofs.NameTable
import RobotCity.Proofs.Stages
import RobotCity.Proofs.Statements.Parts
import RobotCity.Proofs.Statements.Weakening

/-!
# Accepted declarations

Procedures and robot types are accepted exactly if their names are distinct, at every level, and
their bodies keep to the rules among the names that are declared.  A body may call every procedure
of the program, wherever it is declared.
-/

namespace RobotCity

/-- The variables that are declared for a body, the local ones before the parameters. -/
def declaredScope (locals : List Variable) (parameters : List Parameter) : Scope :=
  ⟨locals.map (fun declared => (declared.name, declared.type.token)) ++
    parameters.map (fun declared => (declared.name, declared.type.token))⟩

/-- The procedures as they are declared. -/
def declaredProcedures (procedures : List Procedure) : NameTable Signature :=
  ⟨procedures.map fun procedure =>
    (procedure.name, { name := procedure.name, parameters := procedure.parameters })⟩

/-- What surrounds the statements of a program in a scope. -/
def declaredAround (procedures : List Procedure) (robots : List Text) (everyone : Option Text)
    (scope : Scope) : Surroundings :=
  { scope, robots, procedures := declaredProcedures procedures, everyone }

theorem find?_scopeOf (locals : List Variable) (parameters : List Parameter) (name : Text) :
    (scopeOf locals parameters).find? name = (declaredScope locals parameters).find? name :=
  NameTable.find?_ofFirst _ _

theorem find?_signatures (procedures : List Procedure) (name : Text) :
    (signatures procedures).find? name = (declaredProcedures procedures).find? name :=
  NameTable.find?_ofFirst _ _

variable {procedures : List Procedure} {robots : List Text} {everyone : Option Text}

/-- The tables of the check accept what the declarations themselves accept. -/
theorem accepted_iff_declared {locals : List Variable} {parameters : List Parameter}
    {statement : Statement} :
    statement.Accepted (Setting.around { robots, procedures := signatures procedures, everyone }
        (scopeOf locals parameters)) ↔
      statement.Accepted
        (declaredAround procedures robots everyone (declaredScope locals parameters)) := by
  apply Statement.accepted_iff_of_lookups
  · exact find?_scopeOf locals parameters
  · exact find?_signatures procedures
  · exact fun _ => .rfl

/-- A procedure keeps to the rules of its program. -/
structure Procedure.Acceptable (procedures : List Procedure) (robots : List Text)
    (everyone : Option Text) (strict : Bool) (procedure : Procedure) : Prop where
  parameters_nodup : (procedure.parameters.map (·.name)).Nodup
  locals_nodup : (procedure.locals.map (·.name)).Nodup
  none_hidden : strict → ∀ declared ∈ procedure.locals,
    declared.name ∉ procedure.parameters.map (·.name)
  body_accepted : ∀ statement ∈ procedure.body, statement.Accepted
    (declaredAround procedures robots everyone
      (declaredScope procedure.locals procedure.parameters))

theorem Procedure.hidingFault?_eq_none_iff {procedure : Procedure} :
    procedure.hidingFault? = none ↔
      ∀ declared ∈ procedure.locals, declared.name ∉ procedure.parameters.map (·.name) := by
  simp [hidingFault?]

theorem Procedure.fault?_eq_none_iff {strict : Bool} {procedure : Procedure} :
    procedure.fault? { robots, procedures := signatures procedures, everyone } strict = none ↔
      procedure.Acceptable procedures robots everyone strict := by
  have hidden_clear : (if strict then procedure.hidingFault? else none) = none ↔
      (strict → ∀ declared ∈ procedure.locals,
        declared.name ∉ procedure.parameters.map (·.name)) := by
    rw [ite_eq_right_iff, hidingFault?_eq_none_iff]
  rw [fault?, Option.or_eq_none_iff, Option.or_eq_none_iff, Option.or_eq_none_iff, hidden_clear,
    parameterFault?, variableFault?, bodyFault?, Option.map_eq_none_iff, Option.map_eq_none_iff,
    Option.map_eq_none_iff, repetition?_eq_none_iff, repetition?_eq_none_iff,
    Statement.bodyFault?_eq_none_iff]
  constructor
  · rintro ⟨parameters_nodup, locals_nodup, none_hidden, body_accepted⟩
    exact ⟨parameters_nodup, locals_nodup, none_hidden,
      fun statement member => accepted_iff_declared.mp (body_accepted statement member)⟩
  · rintro ⟨parameters_nodup, locals_nodup, none_hidden, body_accepted⟩
    exact ⟨parameters_nodup, locals_nodup, none_hidden,
      fun statement member => accepted_iff_declared.mpr (body_accepted statement member)⟩

theorem proceduresFault?_eq_none_iff {strict : Bool} :
    proceduresFault? procedures robots everyone strict = none ↔
      (procedures.map (·.name)).Nodup ∧
        ∀ procedure ∈ procedures, procedure.Acceptable procedures robots everyone strict := by
  simp only [← repetition?_eq_none_iff, ← Procedure.fault?_eq_none_iff]
  rw [proceduresFault?]
  cases repetition? (procedures.map (·.name)) <;> simp

/-- A robot type keeps to the rules of its program. -/
structure RobotType.Acceptable (procedures : List Procedure) (robots : List Text)
    (everyone : Option Text) (robotType : RobotType) : Prop where
  locals_nodup : (robotType.locals.map (·.name)).Nodup
  body_accepted : ∀ statement ∈ robotType.body, statement.Accepted
    (declaredAround procedures robots everyone (declaredScope robotType.locals []))

theorem RobotType.fault?_eq_none_iff {robotType : RobotType} :
    robotType.fault? { robots, procedures := signatures procedures, everyone } = none ↔
      robotType.Acceptable procedures robots everyone := by
  rw [fault?, Option.or_eq_none_iff, variableFault?, bodyFault?, Option.map_eq_none_iff,
    Option.map_eq_none_iff, repetition?_eq_none_iff, Statement.bodyFault?_eq_none_iff]
  constructor
  · rintro ⟨locals_nodup, body_accepted⟩
    exact ⟨locals_nodup,
      fun statement member => accepted_iff_declared.mp (body_accepted statement member)⟩
  · rintro ⟨locals_nodup, body_accepted⟩
    exact ⟨locals_nodup,
      fun statement member => accepted_iff_declared.mpr (body_accepted statement member)⟩

theorem robotTypesFault?_eq_none_iff {robotTypes : List RobotType} :
    robotTypesFault? robotTypes procedures robots everyone = none ↔
      (robotTypes.map (·.name)).Nodup ∧
        ∀ robotType ∈ robotTypes, robotType.Acceptable procedures robots everyone := by
  simp only [← repetition?_eq_none_iff, ← RobotType.fault?_eq_none_iff]
  rw [robotTypesFault?]
  cases repetition? (robotTypes.map (·.name)) <;> simp

/-- All bodies of a program with their scopes. -/
def Program.bodies (program : Program) : List (Scope × List Statement) :=
  program.procedures.map (fun procedure =>
      (declaredScope procedure.locals procedure.parameters, procedure.body)) ++
    program.robotTypes.map fun robotType => (declaredScope robotType.locals [], robotType.body)

/-- A call fits a procedure: it has an argument for each parameter, and variables of the right type
for those that are passed by reference. -/
structure Procedure.Fits (scope : Scope) (arguments : List Expression) (callee : Procedure) :
    Prop where
  arity : arguments.length = callee.parameters.length
  references : ∀ parameter argument, (parameter, argument) ∈ callee.parameters.zip arguments →
    parameter.passing = .byReference →
      ∃ given, argument = .variable given ∧ scope.find? given = some parameter.type.token

theorem Procedure.fits_of_passes {around : Surroundings} {arguments : List Expression}
    {callee : Procedure} (passes : List.Forall₂ around.Passes callee.parameters arguments) :
    callee.Fits around.scope arguments := by
  refine ⟨passes.length_eq.symm, fun parameter argument zipped by_reference => ?_⟩
  cases List.forall₂_zip passes zipped with
  | byReference found => exact ⟨_, rfl, found⟩
  | byValue inferred => cases by_reference

/-- Among procedures of distinct names, the one that a name stands for is the only one. -/
theorem callee_unique (names_nodup : (procedures.map (·.name)).Nodup) {name : Text}
    {signature : Signature} (found : (declaredProcedures procedures).find? name = some signature) :
    ∃ callee, procedures.filter (·.name = name) = [callee] ∧
      callee.parameters = signature.parameters := by
  -- The table shows the first procedure of a name; distinct names make it the only one.
  let signatureOf (procedure : Procedure) : Signature :=
    { name := procedure.name, parameters := procedure.parameters }
  obtain ⟨callee, only, same⟩ :=
    exists_only_of_lookup Procedure.name signatureOf names_nodup found
  exact ⟨callee, only, congrArg Signature.parameters same⟩

namespace Program

variable {configuration : Configuration} {program : Program}

/-- Every body of an accepted program keeps to the rules in its scope. -/
theorem body_accepted (accepted : program.verdict configuration = .ok none) {scope : Scope}
    {body : List Statement} (member : (scope, body) ∈ program.bodies) :
    ∀ statement ∈ body, statement.Accepted (declaredAround program.procedures program.robotNames
      configuration.settings.everyone? scope) := by
  have faultless := verdict_eq_none_iff.mp accepted
  rcases List.mem_append.mp member with of_procedure | of_robotType
  · obtain ⟨procedure, procedure_member, same⟩ := List.mem_map.mp of_procedure
    obtain ⟨rfl, rfl⟩ := Prod.mk.inj same
    exact ((proceduresFault?_eq_none_iff.mp faultless.procedures).2 procedure
      procedure_member).body_accepted
  · obtain ⟨robotType, robotType_member, same⟩ := List.mem_map.mp of_robotType
    obtain ⟨rfl, rfl⟩ := Prod.mk.inj same
    exact ((robotTypesFault?_eq_none_iff.mp faultless.robotTypes).2 robotType
      robotType_member).body_accepted

/-- Every call in an accepted program fits the only procedure of its name. -/
theorem call_fits (accepted : program.verdict configuration = .ok none) {scope : Scope}
    {body : List Statement} (member : (scope, body) ∈ program.bodies) {name : Text}
    {arguments : List Expression} (stands : (Statement.call name arguments).StandsInBody body) :
    ∃ callee, program.procedures.filter (·.name = name) = [callee] ∧
      callee.Fits scope arguments := by
  have names_nodup :=
    (proceduresFault?_eq_none_iff.mp (verdict_eq_none_iff.mp accepted).procedures).1
  have call_accepted :=
    Statement.accepted_of_standsInBody (body_accepted accepted member) stands
  cases call_accepted with
  | call found passes =>
      obtain ⟨callee, only, same_parameters⟩ := callee_unique names_nodup found
      rw [← same_parameters] at passes
      exact ⟨callee, only, Procedure.fits_of_passes passes⟩

end Program

/-- Declarations are accepted exactly if they keep to the rules, and every call in an accepted
program, at any depth of any body, fits the only procedure of its name. -/
theorem declarations_checked (procedures : List Procedure) (robotTypes : List RobotType)
    (robots : List Text) (everyone : Option Text) (strict : Bool) :
    (proceduresFault? procedures robots everyone strict = none ↔
      (procedures.map (·.name)).Nodup ∧
        ∀ procedure ∈ procedures, procedure.Acceptable procedures robots everyone strict) ∧
    (robotTypesFault? robotTypes procedures robots everyone = none ↔
      (robotTypes.map (·.name)).Nodup ∧
        ∀ robotType ∈ robotTypes, robotType.Acceptable procedures robots everyone) ∧
    ∀ (configuration : Configuration) (program : Program),
      program.verdict configuration = .ok none →
      ∀ scope body, (scope, body) ∈ program.bodies →
      ∀ name arguments, (Statement.call name arguments).StandsInBody body →
        ∃ callee, program.procedures.filter (·.name = name) = [callee] ∧
          callee.Fits scope arguments := by
  refine ⟨proceduresFault?_eq_none_iff, robotTypesFault?_eq_none_iff, ?_⟩
  intro configuration program accepted scope body member name arguments stands
  exact Program.call_fits accepted member stands

theorem patrol_calls_fit :
    patrol.verdict .standard = .ok none ∧
      ∃ callee, patrol.procedures.filter (·.name = Text.ofString "advance") = [callee] ∧
        callee.Fits (declaredScope sentry.locals []) [.variable "count", .query "PosAv"] := by
  let inner : Statement := .call "advance" [.variable "count", .query "PosAv"]
  have accepted : patrol.verdict .standard = .ok none := rfl
  have member : (declaredScope sentry.locals [], sentry.body) ∈ patrol.bodies :=
    List.mem_append_right _ (List.mem_singleton_self _)
  have in_block : inner.StandsIn (.block [inner]) :=
    .part (List.mem_singleton_self inner) .itself
  have stands : inner.StandsInBody sentry.body :=
    ⟨.times (.integer 3) (.block [inner]), by decide,
      .part (List.mem_singleton_self _) in_block⟩
  obtain ⟨-, -, calls_fit⟩ := declarations_checked [] [] [] none false
  exact ⟨accepted, calls_fit .standard patrol accepted _ _ member _ _ stands⟩

end RobotCity
