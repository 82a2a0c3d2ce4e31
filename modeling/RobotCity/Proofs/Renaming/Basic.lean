import RobotCity.Check.Program
import RobotCity.Proofs.NameTable

/-!
# Renaming

A renaming gives new names to areas, robots, robot types, procedures and variables, each kind of name
by itself.  It is applied to programs, to the configuration that they are checked under, and to the
faults that are found in them.
-/

namespace RobotCity

/-- New names for everything that a program names.  Different names stay different within each of
the five kinds; names of different kinds have nothing to do with each other. -/
structure Renaming where
  ofArea : Text → Text
  ofRobot : Text → Text
  ofRobotType : Text → Text
  ofProcedure : Text → Text
  /-- Of local variables and parameters. -/
  ofVariable : Text → Text
  area_injective : Function.Injective ofArea
  robot_injective : Function.Injective ofRobot
  robotType_injective : Function.Injective ofRobotType
  procedure_injective : Function.Injective ofProcedure
  variable_injective : Function.Injective ofVariable

/-- An expression with its variables renamed. -/
def Expression.rename (names : Renaming) : Expression → Expression
  | .variable name => .variable (names.ofVariable name)
  | .unary operator operand => .unary operator (operand.rename names)
  | .binary operator left right =>
    .binary operator (left.rename names) (right.rename names)
  | expression => expression

/-- What is shown first, with its variables renamed. -/
def Notice.rename (names : Renaming) : Notice → Notice
  | .text content => .text content
  | .value expression => .value (expression.rename names)

mutual

/-- A statement with its variables, recipients and procedures renamed. -/
def Statement.rename (names : Renaming) : Statement → Statement
  | .assign target value => .assign (names.ofVariable target) (value.rename names)
  | .block body => .block (Statement.renameBody names body)
  | .ifThen condition body => .ifThen (condition.rename names) (body.rename names)
  | .ifElse condition body otherwise =>
    .ifElse (condition.rename names) (body.rename names) (otherwise.rename names)
  | .times count body => .times (count.rename names) (body.rename names)
  | .loop condition body => .loop (condition.rename names) (body.rename names)
  | .inform notice value =>
    .inform (notice.rename names) (value.map (·.rename names))
  | .moveTo x y => .moveTo (x.rename names) (y.rename names)
  | .exchange mode value recipient =>
    .exchange mode (value.rename names) (names.ofRobot recipient)
  | .corner mode x y => .corner mode (x.rename names) (y.rename names)
  | .call procedure arguments =>
    .call (names.ofProcedure procedure) (arguments.map (·.rename names))

/-- A body with everything in it renamed. -/
def Statement.renameBody (names : Renaming) : List Statement → List Statement
  | [] => []
  | first :: rest => first.rename names :: Statement.renameBody names rest

end

/-- A local variable with its new name. -/
def Variable.rename (names : Renaming) (declared : Variable) : Variable :=
  { declared with name := names.ofVariable declared.name }

/-- A parameter with its new name. -/
def Parameter.rename (names : Renaming) (parameter : Parameter) : Parameter :=
  { parameter with name := names.ofVariable parameter.name }

/-- A procedure with everything in it renamed. -/
def Procedure.rename (names : Renaming) (procedure : Procedure) : Procedure :=
  { name := names.ofProcedure procedure.name
    parameters := procedure.parameters.map (·.rename names)
    locals := procedure.locals.map (·.rename names)
    body := Statement.renameBody names procedure.body }

/-- A robot type with everything in it renamed. -/
def RobotType.rename (names : Renaming) (robotType : RobotType) : RobotType :=
  { name := names.ofRobotType robotType.name
    locals := robotType.locals.map (·.rename names)
    body := Statement.renameBody names robotType.body }

/-- An area with its new name. -/
def Area.rename (names : Renaming) (area : Area) : Area :=
  { area with name := names.ofArea area.name }

/-- A robot with its new name, of the type with the new name. -/
def Robot.rename (names : Renaming) (robot : Robot) : Robot :=
  { name := names.ofRobot robot.name, type := names.ofRobotType robot.type }

/-- An area given to a robot, under their new names. -/
def Grant.rename (names : Renaming) (grant : Grant) : Grant :=
  { robot := names.ofRobot grant.robot, area := names.ofArea grant.area }

/-- Items given to a robot under its new name. -/
def Supply.rename (names : Renaming) (supply : Supply) : Supply :=
  { supply with robot := names.ofRobot supply.robot }

/-- The start of a robot under its new name. -/
def Origin.rename (names : Renaming) (origin : Origin) : Origin :=
  { origin with robot := names.ofRobot origin.robot }

/-- A setup with everything in it renamed. -/
def Setup.rename (names : Renaming) (setup : Setup) : Setup :=
  { grants := setup.grants.map (·.rename names)
    supplies := setup.supplies.map (·.rename names)
    origins := setup.origins.map (·.rename names) }

/-- A program with everything in it renamed.  It keeps its own name. -/
def Program.rename (names : Renaming) (program : Program) : Program :=
  { name := program.name
    procedures := program.procedures.map (·.rename names)
    areas := program.areas.map (·.rename names)
    robotTypes := program.robotTypes.map (·.rename names)
    robots := program.robots.map (·.rename names)
    setup := program.setup.rename names }

/-- Settings in which the recipient that stands for every robot is renamed like a robot. -/
def Settings.rename (names : Renaming) (settings : Settings) : Settings :=
  { settings with
    everyone :=
      match settings.everyone with
      | .string name => .string (names.ofRobot name)
      | other => other }

/-- A configuration that goes with renamed programs. -/
def Configuration.rename (names : Renaming) (configuration : Configuration) : Configuration :=
  { configuration with settings := configuration.settings.rename names }

/-- A type fault with its variable renamed. -/
def TypeFault.rename (names : Renaming) : TypeFault → TypeFault
  | .undeclared name => .undeclared (names.ofVariable name)
  | fault => fault

/-- A fault of a statement with everything that it names renamed. -/
def StatementFault.rename (names : Renaming) : StatementFault → StatementFault
  | .undeclaredTarget target => .undeclaredTarget (names.ofVariable target)
  | .untypedValue target reason =>
    .untypedValue (names.ofVariable target) (reason.rename names)
  | .mismatchedValue target found declared =>
    .mismatchedValue (names.ofVariable target) found declared
  | .untypedCondition reason => .untypedCondition (reason.rename names)
  | .mismatchedCondition control => .mismatchedCondition control
  | .untypedNotice reason => .untypedNotice (reason.rename names)
  | .untypedCoordinate axis keyword reason =>
    .untypedCoordinate axis keyword (reason.rename names)
  | .mismatchedCoordinate axis keyword => .mismatchedCoordinate axis keyword
  | .untypedMessage mode reason => .untypedMessage mode (reason.rename names)
  | .unknownRecipient recipient mode => .unknownRecipient (names.ofRobot recipient) mode
  | .undeclaredProcedure procedure => .undeclaredProcedure (names.ofProcedure procedure)
  | .tooFewArguments procedure expected given =>
    .tooFewArguments (names.ofProcedure procedure) expected given
  | .tooManyArguments procedure expected given =>
    .tooManyArguments (names.ofProcedure procedure) expected given
  | .argumentNotVariable position procedure parameter =>
    .argumentNotVariable position (names.ofProcedure procedure) (names.ofVariable parameter)
  | .undeclaredArgument argument procedure =>
    .undeclaredArgument (names.ofVariable argument) (names.ofProcedure procedure)
  | .untypedArgument position procedure reason =>
    .untypedArgument position (names.ofProcedure procedure) (reason.rename names)
  | .mismatchedArgument position procedure expected =>
    .mismatchedArgument position (names.ofProcedure procedure) expected
  | .inElse inner => .inElse (inner.rename names)
  | .notStatement kind => .notStatement kind

/-- A repetition of a renamed name. -/
def Repetition.rename (name : Text → Text) (repetition : Repetition) : Repetition :=
  { repetition with name := name repetition.name }

/-- A fault of a procedure with everything that it names renamed. -/
def ProcedureFault.rename (names : Renaming) : ProcedureFault → ProcedureFault
  | .repeated repetition => .repeated (repetition.rename names.ofProcedure)
  | .repeatedParameter procedure repetition =>
    .repeatedParameter (names.ofProcedure procedure) (repetition.rename names.ofVariable)
  | .repeatedVariable procedure repetition =>
    .repeatedVariable (names.ofProcedure procedure) (repetition.rename names.ofVariable)
  | .hiddenParameter procedure declared =>
    .hiddenParameter (names.ofProcedure procedure) (names.ofVariable declared)
  | .body procedure fault => .body (names.ofProcedure procedure) (fault.rename names)

/-- A fault of a robot type with everything that it names renamed. -/
def RobotTypeFault.rename (names : Renaming) : RobotTypeFault → RobotTypeFault
  | .repeated repetition => .repeated (repetition.rename names.ofRobotType)
  | .repeatedVariable robotType repetition =>
    .repeatedVariable (names.ofRobotType robotType) (repetition.rename names.ofVariable)
  | .body robotType fault => .body (names.ofRobotType robotType) (fault.rename names)

/-- A fault of an area with its areas renamed. -/
def AreaFault.rename (names : Renaming) : AreaFault → AreaFault
  | .outside corners area bounds => .outside corners (names.ofArea area) bounds
  | .disordered area => .disordered (names.ofArea area)
  | .repeated area first second => .repeated (names.ofArea area) first second
  | .overlapping earlier later => .overlapping (names.ofArea earlier) (names.ofArea later)

/-- A fault of a robot with what it names renamed. -/
def RobotFault.rename (names : Renaming) : RobotFault → RobotFault
  | .repeated repetition => .repeated (repetition.rename names.ofRobot)
  | .unknownType type position => .unknownType (names.ofRobotType type) position

/-- A fault of a setup with its areas and robots renamed. -/
def SetupFault.rename (names : Renaming) : SetupFault → SetupFault
  | .unknownArea area position => .unknownArea (names.ofArea area) position
  | .unknownHolder robot position => .unknownHolder (names.ofRobot robot) position
  | .limitExceeded area maximum position => .limitExceeded (names.ofArea area) maximum position
  | .areaTwice area robot => .areaTwice (names.ofArea area) (names.ofRobot robot)
  | .areaUnused area => .areaUnused (names.ofArea area)
  | .noArea robot => .noArea (names.ofRobot robot)
  | .unknownReceiver robot position => .unknownReceiver (names.ofRobot robot) position
  | .unknownKind kind position => .unknownKind kind position
  | .kindTwice kind robot => .kindTwice kind (names.ofRobot robot)
  | .unknownStarter robot position => .unknownStarter (names.ofRobot robot) position
  | .originTwice robot position => .originTwice (names.ofRobot robot) position
  | .originOutside robot position => .originOutside (names.ofRobot robot) position
  | .originTaken earlier later => .originTaken (names.ofRobot earlier) (names.ofRobot later)
  | .noOrigin robot => .noOrigin (names.ofRobot robot)

/-- A refusal of the books with its area renamed. -/
def BookError.rename (names : Renaming) : BookError → BookError
  | .areaFull area maximum => .areaFull (names.ofArea area) maximum
  | .unusableKind kind => .unusableKind kind
  | .noEntry kind => .noEntry kind
  | .noUsage area => .noUsage (names.ofArea area)

/-- What ends a check without a verdict, with its area renamed. -/
def CheckError.rename (names : Renaming) : CheckError → CheckError
  | .bound defect => .bound defect
  | .books error => .books (error.rename names)

/-- A fault of a program with everything that it names renamed. -/
def ProgramFault.rename (names : Renaming) : ProgramFault → ProgramFault
  | .areas fault => .areas (fault.rename names)
  | .robots fault => .robots (fault.rename names)
  | .setup fault => .setup (fault.rename names)
  | .procedures fault => .procedures (fault.rename names)
  | .robotTypes fault => .robotTypes (fault.rename names)

/-- Two reports are of the same kind: they differ in nothing but their explanations. -/
structure Report.Alike (report other : Report) : Prop where
  category : report.category = other.category
  internal : report.internal = other.internal

namespace Report.Alike

theorem fault {category : String} (context changed : String) :
    (Report.fault category context).Alike (.fault category changed) :=
  ⟨rfl, rfl⟩

theorem withContext {report other : Report} (alike : report.Alike other) (suffix changed : String) :
    (report.withContext suffix).Alike (other.withContext changed) :=
  ⟨alike.category, alike.internal⟩

end Report.Alike

/-- Only a fault of the program names a variable, and its report keeps the category of the part. -/
theorem TypeFault.report_rename (names : Renaming) (category suffix changed : String)
    (fault : TypeFault) :
    ((fault.rename names).report category suffix).Alike (fault.report category changed) := by
  cases fault <;> simp only [rename, report, complaint, internal, Complaint.report, if_true,
    Bool.false_eq_true, if_false]
  case unknownQuery | unknownUnary | unknownBinary | notExpression => exact ⟨rfl, rfl⟩
  all_goals exact .fault _ _

theorem StatementFault.report_rename (names : Renaming) (fault : StatementFault) :
    (fault.rename names).report.Alike fault.report := by
  induction fault with
  | untypedValue target reason => exact reason.report_rename names _ _ _
  | untypedCondition reason => exact reason.report_rename names _ _ _
  | untypedNotice reason => exact reason.report_rename names _ _ _
  | untypedCoordinate axis keyword reason => exact reason.report_rename names _ _ _
  | untypedMessage mode reason => exact reason.report_rename names _ _ _
  | untypedArgument position procedure reason => exact reason.report_rename names _ _ _
  | inElse inner ih => exact ih.withContext _ _
  | notStatement kind => exact ⟨rfl, rfl⟩
  | _ => exact .fault _ _

theorem ProcedureFault.report_rename (names : Renaming) (fault : ProcedureFault) :
    (fault.rename names).report.Alike fault.report := by
  cases fault with
  | body procedure fault => exact (fault.report_rename names).withContext _ _
  | _ => exact .fault _ _

theorem RobotTypeFault.report_rename (names : Renaming) (fault : RobotTypeFault) :
    (fault.rename names).report.Alike fault.report := by
  cases fault with
  | body robotType fault => exact (fault.report_rename names).withContext _ _
  | _ => exact .fault _ _

theorem SetupFault.category_rename (names : Renaming) (fault : SetupFault) :
    (fault.rename names).category = fault.category := by
  cases fault <;> rfl

theorem SetupFault.report_rename (names : Renaming) (fault : SetupFault) :
    (fault.rename names).report.Alike fault.report := by
  rw [report, report, category_rename]
  exact .fault _ _

/-- A renamed fault is reported under the same category. -/
theorem ProgramFault.report_rename (names : Renaming) (fault : ProgramFault) :
    (fault.rename names).report.Alike fault.report := by
  cases fault with
  | areas fault => exact .fault _ _
  | robots fault => exact .fault _ _
  | setup fault => exact fault.report_rename names
  | procedures fault => exact fault.report_rename names
  | robotTypes fault => exact fault.report_rename names

end RobotCity
