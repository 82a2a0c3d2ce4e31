import RobotCity.Check.Areas
import RobotCity.Check.Declarations
import RobotCity.Check.Robots
import RobotCity.Check.Setup
import RobotCity.Configuration.Basic

/-!
# Programs

A program is checked in five stages: areas, robots, setup, procedures and robot types.  The first
stage with a fault decides; the stages behind it are not entered.  Two stages can break off without a
verdict: that of the areas over the bounds of the city, and that of the setup over its books.
-/

namespace RobotCity

/-- A stage of the check. -/
inductive Stage where
  | areas
  | robots
  | setup
  | procedures
  | robotTypes
  deriving DecidableEq, Repr

namespace Stage

/-- The stages, in order. -/
def all : List Stage := [.areas, .robots, .setup, .procedures, .robotTypes]

/-- The name of a stage in the log. -/
def name : Stage → String
  | .areas => "areas"
  | .robots => "instances"
  | .setup => "inits"
  | .procedures => "procedures"
  | .robotTypes => "robot types"

end Stage

/-- Why a program is not accepted. -/
inductive ProgramFault where
  | areas (fault : AreaFault)
  | robots (fault : RobotFault)
  | setup (fault : SetupFault)
  | procedures (fault : ProcedureFault)
  | robotTypes (fault : RobotTypeFault)
  deriving DecidableEq, Repr

namespace ProgramFault

/-- A fault as it is reported. -/
def report : ProgramFault → Report
  | .areas fault => fault.report
  | .robots fault => fault.report
  | .setup fault => fault.report
  | .procedures fault => fault.report
  | .robotTypes fault => fault.report

/-- The stage that finds a fault. -/
def stage : ProgramFault → Stage
  | .areas _ => .areas
  | .robots _ => .robots
  | .setup _ => .setup
  | .procedures _ => .procedures
  | .robotTypes _ => .robotTypes

end ProgramFault

/-- Why a check breaks off without a verdict. -/
inductive CheckError where
  /-- A bound of the city is not shown. -/
  | bound (defect : Text.ShowingDefect)
  /-- The books refuse an entry. -/
  | books (error : BookError)
  deriving DecidableEq, Repr

/-- The wording of the error with which a check breaks off. -/
def CheckError.message : CheckError → String
  | .bound defect => defect.message
  | .books error => error.message

namespace Program

/-- The names of the robots. -/
def robotNames (program : Program) : List Text :=
  program.robots.map (·.name)

/-- What one stage finds in a program, whatever the other stages say. -/
def stageFault? (configuration : Configuration) (program : Program) :
    Stage → Except CheckError (Option ProgramFault)
  | .areas =>
    ((areasFault? configuration.grid program.areas).mapError .bound).map (·.map .areas)
  | .robots => .ok ((robotsFault? program.robots program.robotTypes).map .robots)
  | .setup =>
    let found :=
      program.setup.fault? program.robots program.areas configuration.settings.itemKinds
    (found.mapError .books).map (·.map .setup)
  | .procedures =>
    .ok ((proceduresFault? program.procedures program.robotNames configuration.settings.everyone?
      configuration.settings.isStrict).map .procedures)
  | .robotTypes =>
    .ok ((robotTypesFault? program.robotTypes program.procedures program.robotNames
      configuration.settings.everyone?).map .robotTypes)

/-- What some stages in a row find in a program. -/
def faultAmong? (configuration : Configuration) (program : Program) :
    List Stage → Except CheckError (Option ProgramFault)
  | [] => .ok none
  | stage :: rest => do
    match ← program.stageFault? configuration stage with
    | some fault => return some fault
    | none => program.faultAmong? configuration rest

/-- The first fault of a program, unless the check breaks off. -/
def fault? (configuration : Configuration) (program : Program) :
    Except CheckError (Option ProgramFault) :=
  program.faultAmong? configuration Stage.all

/-- The verdict on a program, unless the check breaks off. -/
def verdict (configuration : Configuration) (program : Program) : Except CheckError Verdict := do
  let fault ← program.fault? configuration
  return fault.map ProgramFault.report

end Program
end RobotCity
