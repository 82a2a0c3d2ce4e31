import RobotCity.Check.Program
import RobotCity.Proofs.Areas
import RobotCity.Proofs.Outcomes

/-!
# Stages of the check

A program is accepted exactly if no stage of the check finds a fault in it, each taken by itself.
-/

namespace RobotCity

theorem Robot.typeFault?_eq_none_iff (types : List Text) (entry : Robot × Nat) :
    Robot.typeFault? types entry = none ↔ entry.1.type ∈ types := by
  simp [typeFault?]

/-- Robots are accepted exactly if their names are distinct and their types declared. -/
theorem robotsFault?_eq_none_iff {robots : List Robot} {robotTypes : List RobotType} :
    robotsFault? robots robotTypes = none ↔
      (robots.map (·.name)).Nodup ∧ ∀ robot ∈ robots, robot.type ∈ robotTypes.map (·.name) := by
  have types_known := findSome?_zipIdx_eq_none_iff (·.type ∈ robotTypes.map (·.name))
    (Robot.typeFault?_eq_none_iff (robotTypes.map (·.name))) robots 1
  rw [robotsFault?, ← repetition?_eq_none_iff, ← types_known]
  cases repetition? (robots.map (·.name)) <;> simp

namespace Program

variable {configuration : Configuration} {program : Program}

/-- No stage of the check finds a fault in a program. -/
structure Faultless (configuration : Configuration) (program : Program) : Prop where
  areas : areasFault? configuration.grid program.areas = .ok none
  robots : robotsFault? program.robots program.robotTypes = none
  setup : program.setup.fault? program.robots program.areas configuration.settings.itemKinds =
    .ok none
  procedures : proceduresFault? program.procedures program.robotNames
    configuration.settings.everyone? configuration.settings.isStrict = none
  robotTypes : robotTypesFault? program.robotTypes program.procedures program.robotNames
    configuration.settings.everyone? = none

/-- A row of stages finds no fault exactly if none of its stages does. -/
theorem faultAmong?_eq_none_iff (stages : List Stage) :
    program.faultAmong? configuration stages = .ok none ↔
      ∀ stage ∈ stages, program.stageFault? configuration stage = .ok none := by
  induction stages with
  | nil => simp [faultAmong?]
  | cons stage rest ih =>
      rw [faultAmong?, List.forall_mem_cons, ← ih]
      rcases program.stageFault? configuration stage with error | _ | fault <;>
        simp [bind, Except.bind, pure, Except.pure]

/-- A stage that may break off finds nothing exactly if what it calls finds nothing. -/
theorem lifted_eq_none_iff {ε α : Type} (lift : ε → CheckError) (wrap : α → ProgramFault)
    (outcome : Except ε (Option α)) :
    (outcome.mapError lift).map (·.map wrap) = .ok none ↔ outcome = .ok none := by
  rcases outcome with error | _ | found <;> simp [mapError_ok, mapError_error, Except.map]

theorem lifted_eq_some_iff {ε α : Type} (lift : ε → CheckError) (wrap : α → ProgramFault)
    (outcome : Except ε (Option α)) {fault : ProgramFault} :
    (outcome.mapError lift).map (·.map wrap) = .ok (some fault) ↔
      ∃ inner, outcome = .ok (some inner) ∧ wrap inner = fault := by
  rcases outcome with error | _ | found <;> simp [mapError_ok, mapError_error, Except.map]

/-- A program is accepted exactly if it is faultless. -/
theorem verdict_eq_none_iff :
    program.verdict configuration = .ok none ↔ program.Faultless configuration := by
  have stages : program.fault? configuration = .ok none ↔ program.Faultless configuration := by
    simp only [fault?, faultAmong?_eq_none_iff, Stage.all, List.forall_mem_cons, stageFault?,
      lifted_eq_none_iff, Except.ok.injEq, Option.map_eq_none_iff]
    constructor
    · rintro ⟨areas, robots, setup, procedures, robotTypes, -⟩
      exact ⟨areas, robots, setup, procedures, robotTypes⟩
    · rintro ⟨areas, robots, setup, procedures, robotTypes⟩
      exact ⟨areas, robots, setup, procedures, robotTypes, by simp⟩
  rw [← stages, verdict]
  rcases program.fault? configuration with error | _ | fault <;>
    simp [bind, Except.bind, pure, Except.pure]

/-- A bound of the city that cannot be shown ends the check, whatever else there is to find. -/
theorem verdict_of_not_showable (long : ¬configuration.grid.Showable) :
    program.verdict configuration = .error (.bound .longInteger) := by
  rw [verdict, fault?, Stage.all, faultAmong?, stageFault?, areasFault?_of_not_showable long]
  rfl

/-- Where areas and robots are in order, an entry that the books refuse ends the check. -/
theorem verdict_refused {error : BookError}
    (areas : areasFault? configuration.grid program.areas = .ok none)
    (robots : robotsFault? program.robots program.robotTypes = none)
    (refused : program.setup.fault? program.robots program.areas configuration.settings.itemKinds =
      .error error) : program.verdict configuration = .error (.books error) := by
  simp only [verdict, fault?, Stage.all, faultAmong?, stageFault?, areas, robots, refused,
    mapError_ok, mapError_error, Except.map, Option.map_none, bind, Except.bind]

/-- A fault in the areas is reported, whatever the books say of the setup. -/
theorem verdict_of_areas_fault {fault : AreaFault}
    (areas : areasFault? configuration.grid program.areas = .ok (some fault)) :
    program.verdict configuration = .ok (some fault.report) := by
  rw [verdict, fault?, Stage.all, faultAmong?, stageFault?, areas]
  rfl

/-- A fault in the robots is reported, whatever the books say of the setup. -/
theorem verdict_of_robots_fault {fault : RobotFault}
    (areas : areasFault? configuration.grid program.areas = .ok none)
    (robots : robotsFault? program.robots program.robotTypes = some fault) :
    program.verdict configuration = .ok (some fault.report) := by
  simp only [verdict, fault?, Stage.all, faultAmong?, stageFault?, areas, robots, mapError_ok,
    Except.map, Option.map_none, Option.map_some, bind, Except.bind]
  rfl

end Program

/-- A procedure that counts steps and calls itself. -/
def advance : Procedure :=
  { name := "advance"
    parameters := [⟨.byReference, "count", .numeric⟩, ⟨.byValue, "steps", .numeric⟩]
    locals := [⟨"done", .boolean⟩]
    body :=
      [ .assign "count" (.binary "+" (.variable "count") (.variable "steps"))
      , .assign "done" (.binary "<" (.variable "count") (.integer 10))
      , .loop (.variable "done") (.block [.call "advance" [.variable "steps", .integer 1]]) ] }

/-- A robot type that counts its steps by a procedure. -/
def sentry : RobotType :=
  { name := "sentry"
    locals := [⟨"count", .numeric⟩]
    body :=
      [ .assign "count" (.integer 0)
      , .times (.integer 3) (.block [.call "advance" [.variable "count", .query "PosAv"]])
      , .exchange .send (.variable "count") "*" ] }

/-- Two sentries, of which one has an area to itself. -/
def patrol : Program :=
  { name := .string "patrol"
    procedures := [advance]
    areas := [⟨"north", .shared, ⟨⟨1, 1⟩, ⟨9, 9⟩⟩⟩, ⟨"south", .exclusive, ⟨⟨1, 10⟩, ⟨9, 19⟩⟩⟩]
    robotTypes := [sentry]
    robots := [⟨"r1", "sentry"⟩, ⟨"r2", "sentry"⟩]
    setup :=
      { grants := [⟨"r1", "north"⟩, ⟨"r2", "north"⟩, ⟨"r2", "south"⟩]
        supplies := [⟨"r1", ["flower", "paper"], 0⟩]
        origins := [⟨"r2", ⟨4, 12⟩⟩, ⟨"r1", ⟨4, 9⟩⟩] } }

example : patrol.verdict .standard = .ok none := rfl

end RobotCity
