import RobotCity.Check.Program
import RobotCity.Log

/-!
# Logged checks

The check of a program tells which stages it enters and what it finds.  The log does not change the
verdict.
-/

namespace RobotCity

/-- The record of a check. -/
def checkRecord (level : LogLevel) (message : String) : LogRecord :=
  { level, source := .validator, message }

/-- The name of a program in the log.  The log never ends a check: it tells why a name is not shown. -/
def Program.nameInLog (program : Program) : String :=
  Text.wording program.name.asName

/-- The record of the entry to a stage. -/
def enteredRecord (program : Program) (stage : Stage) : LogRecord :=
  checkRecord .debug s!"Validating {stage.name} of program '{program.nameInLog}'"

/-- The record of a fault. -/
def faultRecord (stage : Stage) (report : Report) : LogRecord :=
  if report.internal then
    checkRecord .warning s!"Malformed AST reached the {stage.name} stage: {report.context}"
  else checkRecord .info s!"Validation failed in {stage.name} stage: {report.text}"

/-- The record of a program without a fault. -/
def acceptedRecord (program : Program) : LogRecord :=
  checkRecord .debug s!"Program '{program.nameInLog}' is valid"

namespace Program

/-- Check some stages in a row and keep a log. -/
def logAmong (configuration : Configuration) (program : Program) :
    List Stage → List LogRecord × Except CheckError Verdict
  | [] => ([acceptedRecord program], .ok none)
  | stage :: rest =>
    match program.stageFault? configuration stage with
    | .error error => ([enteredRecord program stage], .error error)
    | .ok (some fault) =>
      ([enteredRecord program stage, faultRecord stage fault.report], .ok (some fault.report))
    | .ok none =>
      let later := program.logAmong configuration rest
      (enteredRecord program stage :: later.1, later.2)

/-- Check a program and keep a log. -/
def logged (configuration : Configuration) (program : Program) :
    List LogRecord × Except CheckError Verdict :=
  program.logAmong configuration Stage.all

theorem logAmong_verdict (configuration : Configuration) (program : Program)
    (stages : List Stage) :
    (program.logAmong configuration stages).2 =
      (program.faultAmong? configuration stages).map (·.map ProgramFault.report) := by
  induction stages with
  | nil => rfl
  | cons stage rest ih =>
    unfold logAmong faultAmong?
    cases program.stageFault? configuration stage with
    | error error => rfl
    | ok found =>
      cases found with
      | some fault => rfl
      | none => exact ih

/-- The log does not change the verdict. -/
theorem logged_verdict (configuration : Configuration) (program : Program) :
    (program.logged configuration).2 = program.verdict configuration := by
  rw [logged, logAmong_verdict, verdict, fault?]
  cases program.faultAmong? configuration Stage.all <;> rfl

end Program
end RobotCity
