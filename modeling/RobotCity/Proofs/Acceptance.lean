import RobotCity.Proofs.References
import RobotCity.Proofs.Setup.Refusals

/-!
# Accepted programs

What an accepted program fulfils is gathered here without the order of the stages: conditions on its
areas, robots and setup, names that are distinct, and declarations that keep to the rules one by one.
-/

namespace RobotCity

/-- A procedure or a robot type keeps to the rules of its program. -/
structure Declared.Acceptable (procedures : List Procedure) (robots : List Text)
    (everyone : Option Text) (strict : Bool) (declared : Declared) : Prop where
  parameters_nodup : (declared.parameters.map (·.name)).Nodup
  locals_nodup : (declared.locals.map (·.name)).Nodup
  none_hidden : strict → ∀ one ∈ declared.locals,
    one.name ∉ declared.parameters.map (·.name)
  body_accepted : ∀ statement ∈ declared.body, statement.Accepted
    (declaredAround procedures robots everyone
      (declaredScope declared.locals declared.parameters))

section Declarations

variable {procedures : List Procedure} {robots : List Text} {everyone : Option Text}

theorem Procedure.acceptable_iff_declared {strict : Bool} {procedure : Procedure} :
    procedure.Acceptable procedures robots everyone strict ↔
      procedure.declared.Acceptable procedures robots everyone strict := by
  constructor
  · rintro ⟨parameters_nodup, locals_nodup, none_hidden, body_accepted⟩
    exact ⟨parameters_nodup, locals_nodup, none_hidden, body_accepted⟩
  · rintro ⟨parameters_nodup, locals_nodup, none_hidden, body_accepted⟩
    exact ⟨parameters_nodup, locals_nodup, none_hidden, body_accepted⟩

/-- Without parameters there is nothing to hide, so that it does not matter whether the check is
strict. -/
theorem RobotType.acceptable_iff_declared (strict : Bool) {robotType : RobotType} :
    robotType.Acceptable procedures robots everyone ↔
      robotType.declared.Acceptable procedures robots everyone strict := by
  constructor
  · rintro ⟨locals_nodup, body_accepted⟩
    exact ⟨List.nodup_nil, locals_nodup, fun _ _ _ => List.not_mem_nil, body_accepted⟩
  · rintro ⟨-, locals_nodup, -, body_accepted⟩
    exact ⟨locals_nodup, body_accepted⟩

end Declarations

namespace Program

/-- The declarations of a program keep to its rules. -/
def DeclaredWell (configuration : Configuration) (program : Program) : Prop :=
  ∀ declared ∈ program.declared, declared.Acceptable program.procedures program.robotNames
    configuration.settings.everyone? configuration.settings.isStrict

theorem declaredWell_iff_forall {configuration : Configuration} {program : Program} :
    program.DeclaredWell configuration ↔
      (∀ procedure ∈ program.procedures, procedure.declared.Acceptable program.procedures
        program.robotNames configuration.settings.everyone? configuration.settings.isStrict) ∧
      ∀ robotType ∈ program.robotTypes, robotType.declared.Acceptable program.procedures
        program.robotNames configuration.settings.everyone? configuration.settings.isStrict := by
  simp only [DeclaredWell, declared, List.forall_mem_append, List.forall_mem_map]

theorem declaredWell_iff {configuration : Configuration} {program : Program} :
    program.DeclaredWell configuration ↔
      (∀ procedure ∈ program.procedures, procedure.Acceptable program.procedures
        program.robotNames configuration.settings.everyone? configuration.settings.isStrict) ∧
      ∀ robotType ∈ program.robotTypes, robotType.Acceptable program.procedures
        program.robotNames configuration.settings.everyone? := by
  simp only [declaredWell_iff_forall, ← Procedure.acceptable_iff_declared,
    ← RobotType.acceptable_iff_declared configuration.settings.isStrict]

/-- What a program fulfils under a configuration that knows some kinds of items. -/
structure Admissible (configuration : Configuration) (kinds : List Text) (program : Program) :
    Prop where
  bounds_showable : configuration.grid.Showable
  areas_lie : ∀ area ∈ program.areas, area.Lies configuration.grid
  areas_apart : program.areas.Pairwise Area.Apart
  robots_nodup : (program.robots.map (·.name)).Nodup
  types_declared : ∀ robot ∈ program.robots, robot.type ∈ program.robotTypes.map (·.name)
  setup_meets : ∀ pass,
    (Roster.ofDeclared program.robots program.areas kinds).Meets program.setup pass
  procedures_nodup : (program.procedures.map (·.name)).Nodup
  robotTypes_nodup : (program.robotTypes.map (·.name)).Nodup
  declaredWell : program.DeclaredWell configuration

variable {configuration : Configuration} {kinds : List Text} {program : Program}

theorem Admissible.distinct (admissible : program.Admissible configuration kinds) :
    (Roster.ofDeclared program.robots program.areas kinds).Distinct :=
  ⟨areas_nodup_of_apart admissible.areas_apart, admissible.robots_nodup⟩

/-- A program is accepted exactly if it is admissible. -/
theorem verdict_eq_none_iff_admissible
    (kinds_given : configuration.settings.itemKinds = kinds.map .string) :
    program.verdict configuration = .ok none ↔ program.Admissible configuration kinds := by
  rw [verdict_eq_none_iff]
  constructor
  · intro faultless
    obtain ⟨bounds_showable, areas_lie, areas_apart⟩ :=
      areasFault?_eq_none_iff.mp faultless.areas
    obtain ⟨robots_nodup, types_declared⟩ := robotsFault?_eq_none_iff.mp faultless.robots
    obtain ⟨procedures_nodup, procedures_acceptable⟩ :=
      proceduresFault?_eq_none_iff.mp faultless.procedures
    obtain ⟨robotTypes_nodup, robotTypes_acceptable⟩ :=
      robotTypesFault?_eq_none_iff.mp faultless.robotTypes
    have setup_faultless := faultless.setup
    rw [kinds_given] at setup_faultless
    have setup_meets := Setup.meets_of_faultless
      ⟨areas_nodup_of_apart areas_apart, robots_nodup⟩ setup_faultless
    exact ⟨bounds_showable, areas_lie, areas_apart, robots_nodup, types_declared, setup_meets,
      procedures_nodup, robotTypes_nodup,
      declaredWell_iff.mpr ⟨procedures_acceptable, robotTypes_acceptable⟩⟩
  · intro admissible
    obtain ⟨procedures_acceptable, robotTypes_acceptable⟩ :=
      declaredWell_iff.mp admissible.declaredWell
    have setup_faultless := Setup.fault?_of_meets admissible.distinct admissible.setup_meets
    rw [← kinds_given] at setup_faultless
    exact
      { areas := areasFault?_eq_none_iff.mpr
          ⟨admissible.bounds_showable, admissible.areas_lie, admissible.areas_apart⟩
        robots := robotsFault?_eq_none_iff.mpr
          ⟨admissible.robots_nodup, admissible.types_declared⟩
        setup := setup_faultless
        procedures := proceduresFault?_eq_none_iff.mpr
          ⟨admissible.procedures_nodup, procedures_acceptable⟩
        robotTypes := robotTypesFault?_eq_none_iff.mpr
          ⟨admissible.robotTypes_nodup, robotTypes_acceptable⟩ }

/-- Stages of which none breaks off come to an end. -/
theorem faultAmong?_total {stages : List Stage}
    (total : ∀ stage ∈ stages, ∃ found, program.stageFault? configuration stage = .ok found) :
    ∃ found, program.faultAmong? configuration stages = .ok found := by
  induction stages with
  | nil => exact ⟨none, rfl⟩
  | cons stage rest ih =>
      obtain ⟨here, later⟩ := List.forall_mem_cons.mp total
      obtain ⟨found, stopped⟩ := here
      rw [faultAmong?, stopped]
      cases found with
      | none => exact ih later
      | some fault => exact ⟨some fault, rfl⟩

/-- Every program gets a verdict where the bounds of the city can be shown and the books can be opened. -/
theorem exists_verdict (showable : configuration.grid.Showable)
    (usable : Ledger.unusable? configuration.settings.itemKinds = none ∨ program.robots = []) :
    ∃ found, program.verdict configuration = .ok found := by
  have decided : ∃ found, program.fault? configuration = .ok found := by
    refine faultAmong?_total fun stage _ => ?_
    cases stage with
    | areas => exact ⟨_, by rw [stageFault?, areasFault?_of_showable showable]; rfl⟩
    | setup =>
        obtain ⟨found, checked⟩ := program.setup.exists_fault? program.areas usable
        exact ⟨found.map .setup, by rw [stageFault?, checked]; rfl⟩
    | _ => exact ⟨_, rfl⟩
  obtain ⟨found, stopped⟩ := decided
  exact ⟨found.map ProgramFault.report, by rw [verdict, stopped]; rfl⟩

/-- Every program gets a verdict where the bounds of the city can be shown if only texts stand for kinds
of items. -/
theorem verdict_total (showable : configuration.grid.Showable)
    (kinds_given : configuration.settings.itemKinds = kinds.map .string) :
    ∃ found, program.verdict configuration = .ok found :=
  exists_verdict showable (.inl (by rw [kinds_given, Ledger.unusable?_map_string]))

end Program
end RobotCity
