import RobotCity.Check.Repetition
import RobotCity.Check.Statements

/-!
# Procedures and robot types

Declarations are checked in order, each one's names before its body.  The body of a procedure sees
its local variables and its parameters, that of a robot type its local variables alone; both may
call every procedure of the program.
-/

namespace RobotCity

/-- The scope of local variables and parameters; the first declaration of a name counts, so that a
local variable hides a parameter. -/
def scopeOf (locals : List Variable) (parameters : List Parameter) : Scope :=
  .ofFirst (locals.map (fun declared => (declared.name, declared.type.token)) ++
    parameters.map (fun declared => (declared.name, declared.type.token)))

/-- What does not change from one declaration to the next. -/
structure Setting where
  robots : List Text
  /-- The procedures that can be called. -/
  procedures : NameTable Signature
  /-- The recipient that stands for every robot, if there is one. -/
  everyone : Option Text

/-- What the statements of a declaration are checked against. -/
def Setting.around (setting : Setting) (scope : Scope) : Surroundings :=
  { scope
    robots := setting.robots
    procedures := setting.procedures
    everyone := setting.everyone }

/-- Why a procedure is not accepted. -/
inductive ProcedureFault where
  | repeated (repetition : Repetition)
  | repeatedParameter (procedure : Text) (repetition : Repetition)
  | repeatedVariable (procedure : Text) (repetition : Repetition)
  | hiddenParameter (procedure declared : Text)
  | body (procedure : Text) (fault : StatementFault)
  deriving DecidableEq, Repr

namespace ProcedureFault

/-- The words that name the procedure in which a fault lies. -/
def location (procedure : Text) : String :=
  s!", in the declaration of procedure '{procedure}'"

/-- A fault as it is reported. -/
def report : ProcedureFault → Report
  | .repeated repetition =>
    .fault "Invalid procedure declaration"
      (s!"Identifier '{repetition.name}' is used in the declaration of procedure " ++
        repetition.places)
  | .repeatedParameter procedure repetition =>
    .fault "Invalid parameter declaration"
      (s!"Identifier '{repetition.name}' is used in parameter {repetition.places}" ++
        location procedure)
  | .repeatedVariable procedure repetition =>
    .fault "Invalid variable declaration"
      (s!"Identifier '{repetition.name}' is used in variable {repetition.places}" ++
        location procedure)
  | .hiddenParameter procedure declared =>
    .fault "Invalid variable declaration"
      (s!"Variable '{declared}' has the same name as a parameter" ++ location procedure)
  | .body procedure fault => fault.report.withContext (location procedure)

end ProcedureFault

namespace Procedure

/-- The fault of a parameter name that stands twice. -/
def parameterFault? (procedure : Procedure) : Option ProcedureFault :=
  (repetition? (procedure.parameters.map (·.name))).map (.repeatedParameter procedure.name)

/-- The fault of a variable name that stands twice. -/
def variableFault? (procedure : Procedure) : Option ProcedureFault :=
  (repetition? (procedure.locals.map (·.name))).map (.repeatedVariable procedure.name)

/-- The fault of the first local variable that hides a parameter. -/
def hidingFault? (procedure : Procedure) : Option ProcedureFault :=
  (procedure.locals.find? fun declared =>
    (procedure.parameters.map (·.name)).contains declared.name).map
      fun declared => .hiddenParameter procedure.name declared.name

/-- The scope of the body. -/
def scope (procedure : Procedure) : Scope :=
  scopeOf procedure.locals procedure.parameters

/-- The first fault of the body. -/
def bodyFault? (setting : Setting) (procedure : Procedure) : Option ProcedureFault :=
  (Statement.bodyFault? (setting.around procedure.scope) procedure.body).map
    (.body procedure.name)

/-- The first fault of a procedure. -/
def fault? (setting : Setting) (strict : Bool) (procedure : Procedure) :
    Option ProcedureFault :=
  procedure.parameterFault?.or
    (procedure.variableFault?.or
      ((if strict then procedure.hidingFault? else none).or (procedure.bodyFault? setting)))

end Procedure

/-- The first fault of the procedures of a program.  If the check is strict, no local variable may
hide a parameter. -/
def proceduresFault? (procedures : List Procedure) (robots : List Text)
    (everyone : Option Text) (strict : Bool) : Option ProcedureFault :=
  match repetition? (procedures.map (·.name)) with
  | some repetition => some (.repeated repetition)
  | none =>
    procedures.findSome?
      (Procedure.fault? { robots, procedures := signatures procedures, everyone } strict)

/-- Why a robot type is not accepted. -/
inductive RobotTypeFault where
  | repeated (repetition : Repetition)
  | repeatedVariable (robotType : Text) (repetition : Repetition)
  | body (robotType : Text) (fault : StatementFault)
  deriving DecidableEq, Repr

namespace RobotTypeFault

/-- The words that name the robot type in which a fault lies. -/
def location (robotType : Text) : String :=
  s!", in the declaration of robot type '{robotType}'"

/-- A fault as it is reported. -/
def report : RobotTypeFault → Report
  | .repeated repetition =>
    .fault "Invalid robot type declaration"
      (s!"Identifier '{repetition.name}' is used in the declaration of robot type " ++
        repetition.places)
  | .repeatedVariable robotType repetition =>
    .fault "Invalid variable declaration"
      (s!"Identifier '{repetition.name}' is used in variable {repetition.places}" ++
        location robotType)
  | .body robotType fault => fault.report.withContext (location robotType)

end RobotTypeFault

namespace RobotType

/-- The fault of a variable name that stands twice. -/
def variableFault? (robotType : RobotType) : Option RobotTypeFault :=
  (repetition? (robotType.locals.map (·.name))).map (.repeatedVariable robotType.name)

/-- The scope of the body. -/
def scope (robotType : RobotType) : Scope :=
  scopeOf robotType.locals []

/-- The first fault of the body. -/
def bodyFault? (setting : Setting) (robotType : RobotType) : Option RobotTypeFault :=
  (Statement.bodyFault? (setting.around robotType.scope) robotType.body).map
    (.body robotType.name)

/-- The first fault of a robot type. -/
def fault? (setting : Setting) (robotType : RobotType) : Option RobotTypeFault :=
  robotType.variableFault?.or (robotType.bodyFault? setting)

end RobotType

/-- The first fault of the robot types of a program. -/
def robotTypesFault? (robotTypes : List RobotType) (procedures : List Procedure)
    (robots : List Text) (everyone : Option Text) : Option RobotTypeFault :=
  match repetition? (robotTypes.map (·.name)) with
  | some repetition => some (.repeated repetition)
  | none =>
    robotTypes.findSome?
      (RobotType.fault? { robots, procedures := signatures procedures, everyone })

end RobotCity
