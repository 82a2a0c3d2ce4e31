import RobotCity.Check.Typing

/-!
# Statements

The statements of a body are checked in order against one scope, which blocks and the bodies of
control statements share.  The first fault found is the fault of the body; a fault in the branch of
a `sino` says so.
-/

namespace RobotCity

/-- What a call needs to know of a procedure. -/
structure Signature where
  name : Text
  parameters : List Parameter
  deriving DecidableEq, Repr

/-- The procedures that can be called; the first declaration of a name counts. -/
def signatures (procedures : List Procedure) : NameTable Signature :=
  .ofFirst (procedures.map fun procedure =>
    (procedure.name, { name := procedure.name, parameters := procedure.parameters }))

/-- What statements are checked against. -/
structure Surroundings where
  /-- The variables that can be used. -/
  scope : Scope
  robots : List Text
  /-- The procedures that can be called. -/
  procedures : NameTable Signature
  /-- The recipient that stands for every robot, if there is one. -/
  everyone : Option Text

/-- A statement with a condition or a count and a body. -/
inductive Control where
  | branch
  | times
  | loop
  deriving DecidableEq, Repr

namespace Control

/-- The keyword of a control statement. -/
def keyword : Control → String
  | .branch => "si"
  | .times => "repetir"
  | .loop => "mientras"

/-- The type of its condition or count. -/
def type : Control → ValueType
  | .branch | .loop => .boolean
  | .times => .numeric

end Control

/-- One of the two coordinates of a corner. -/
inductive Axis where
  | x
  | y
  deriving DecidableEq, Repr

/-- The name of an axis. -/
def Axis.name : Axis → String
  | .x => "x"
  | .y => "y"

/-- Why a statement is not accepted. -/
inductive StatementFault where
  | undeclaredTarget (target : Text)
  | untypedValue (target : Text) (reason : TypeFault)
  | mismatchedValue (target found declared : Text)
  | untypedCondition (reason : TypeFault)
  | mismatchedCondition (control : Control)
  | untypedNotice (reason : TypeFault)
  | untypedCoordinate (axis : Axis) (keyword : String) (reason : TypeFault)
  | mismatchedCoordinate (axis : Axis) (keyword : String)
  | untypedMessage (mode : MessageMode) (reason : TypeFault)
  | unknownRecipient (recipient : Text) (mode : MessageMode)
  | undeclaredProcedure (procedure : Text)
  | tooFewArguments (procedure : Text) (expected given : Nat)
  | tooManyArguments (procedure : Text) (expected given : Nat)
  | argumentNotVariable (position : Nat) (procedure parameter : Text)
  | undeclaredArgument (argument procedure : Text)
  | untypedArgument (position : Nat) (procedure : Text) (reason : TypeFault)
  | mismatchedArgument (position : Nat) (procedure : Text) (expected : ValueType)
  | inElse (inner : StatementFault)
  | notStatement (kind : String)
  deriving DecidableEq, Repr

namespace StatementFault

/-- A fault as it is reported. -/
def report : StatementFault → Report
  | .undeclaredTarget target =>
    .fault "Invalid value assignment" s!"Invalid variable, '{target}' was not declared"
  | .untypedValue target reason =>
    reason.report "Invalid value assignment" s!", in the assignment of variable '{target}'"
  | .mismatchedValue target found declared =>
    .fault "Invalid value assignment"
      (s!"Cannot assign a value of type {found} to a variable of type {declared}" ++
        s!", in the assignment of variable '{target}'")
  | .untypedCondition reason => reason.report "Invalid condition" ", in the condition declaration"
  | .mismatchedCondition control =>
    .fault "Invalid condition result"
      (s!"Invalid expression result, the condition of a {control.keyword} statement must " ++
        s!"evaluate to {control.type.token}")
  | .untypedNotice reason => reason.report "Invalid argument" ", in the argument of Informar"
  | .untypedCoordinate axis keyword reason =>
    reason.report "Invalid argument" s!", in the {axis.name} coordinate of {keyword}"
  | .mismatchedCoordinate axis keyword =>
    .fault "Invalid argument"
      (s!"Invalid expression result, the {axis.name} argument of {keyword} must evaluate " ++
        s!"to {ValueType.numeric.token}")
  | .untypedMessage mode reason =>
    reason.report "Invalid argument" s!", in the value argument of {mode.keyword}"
  | .unknownRecipient recipient mode =>
    .fault "Invalid argument"
      (s!"Instance '{recipient}' was not declared and is used as the target of " ++
        mode.keyword)
  | .undeclaredProcedure procedure =>
    .fault "Invalid procedure call" s!"Procedure '{procedure}' was not declared"
  | .tooFewArguments procedure expected given =>
    .fault "Invalid procedure call"
      (s!"Too few arguments in the call to procedure '{procedure}': " ++
        s!"expected {Text.natText expected}, got {Text.natText given}")
  | .tooManyArguments procedure expected given =>
    .fault "Invalid procedure call"
      (s!"Too many arguments in the call to procedure '{procedure}': " ++
        s!"expected {Text.natText expected}, got {Text.natText given}")
  | .argumentNotVariable position procedure parameter =>
    .fault "Invalid procedure call"
      (s!"Argument {Text.natText position} in the call to procedure '{procedure}' must be a " ++
        s!"variable because parameter '{parameter}' is passed by reference")
  | .undeclaredArgument argument procedure =>
    .fault "Invalid procedure call"
      (s!"Variable '{argument}' was not declared and is used in the call to " ++
        s!"procedure '{procedure}'")
  | .untypedArgument position procedure reason =>
    reason.report "Invalid procedure call"
      s!", in argument {Text.natText position} of the call to procedure '{procedure}'"
  | .mismatchedArgument position procedure expected =>
    .fault "Invalid procedure call"
      (s!"Argument {Text.natText position} in the call to procedure '{procedure}' does not have " ++
        s!"the type of parameter {Text.natText position} ({expected.token}) in the procedure " ++
        "declaration")
  | .inElse inner => inner.report.withContext ", in the sino branch"
  | .notStatement kind => .broken s!"Unknown statement node {kind}"

end StatementFault

namespace Surroundings

/-- The fault of an assignment. -/
def assignFault? (around : Surroundings) (target : Text) (value : Expression) :
    Option StatementFault :=
  match around.scope.find? target with
  | none => some (.undeclaredTarget target)
  | some declared =>
    match value.infer around.scope with
    | .error reason => some (.untypedValue target reason)
    | .ok found => if found = declared then none else some (.mismatchedValue target found declared)

/-- The fault of the condition or count of a control statement. -/
def conditionFault? (around : Surroundings) (control : Control) (condition : Expression) :
    Option StatementFault :=
  match condition.infer around.scope with
  | .error reason => some (.untypedCondition reason)
  | .ok found => if found = control.type.token then none else some (.mismatchedCondition control)

/-- The fault of `Informar`: behind a text only the value is checked, else only what comes first. -/
def informFault? (around : Surroundings) (notice : Notice) (value : Option Expression) :
    Option StatementFault :=
  let checked :=
    match notice with
    | .text _ => value
    | .value expression => some expression
  match checked.map (Expression.infer around.scope) with
  | some (.error reason) => some (.untypedNotice reason)
  | _ => none

/-- The fault of one coordinate. -/
def coordinateFault? (around : Surroundings) (keyword : String) (axis : Axis)
    (coordinate : Expression) : Option StatementFault :=
  match coordinate.infer around.scope with
  | .error reason => some (.untypedCoordinate axis keyword reason)
  | .ok found =>
    if found = ValueType.numeric.token then none else some (.mismatchedCoordinate axis keyword)

/-- The fault of the two coordinates of a corner. -/
def cornerFault? (around : Surroundings) (keyword : String) (x y : Expression) :
    Option StatementFault :=
  (around.coordinateFault? keyword .x x).or (around.coordinateFault? keyword .y y)

/-- The fault of sending or receiving a message. -/
def exchangeFault? (around : Surroundings) (mode : MessageMode) (value : Expression)
    (recipient : Text) : Option StatementFault :=
  match value.infer around.scope with
  | .error reason => some (.untypedMessage mode reason)
  | .ok _ =>
    if around.everyone = some recipient ∨ recipient ∈ around.robots then none
    else some (.unknownRecipient recipient mode)

/-- The fault of one argument of a call. -/
def argumentFault? (around : Surroundings) (procedure : Text) (position : Nat)
    (parameter : Parameter) (argument : Expression) : Option StatementFault :=
  match parameter.passing, argument with
  | .byReference, .variable name =>
    match around.scope.find? name with
    | none => some (.undeclaredArgument name procedure)
    | some declared =>
      if declared = parameter.type.token then none
      else some (.mismatchedArgument position procedure parameter.type)
  | .byReference, _ => some (.argumentNotVariable position procedure parameter.name)
  | .byValue, _ =>
    match argument.infer around.scope with
    | .error reason => some (.untypedArgument position procedure reason)
    | .ok found =>
      if found = parameter.type.token then none
      else some (.mismatchedArgument position procedure parameter.type)

/-- The first fault of the arguments of a call from a position on. -/
def argumentsFault? (around : Surroundings) (procedure : Text) (position : Nat) :
    List Parameter → List Expression → Option StatementFault
  | parameter :: parameters, argument :: arguments =>
    (around.argumentFault? procedure position parameter argument).or
      (around.argumentsFault? procedure (position + 1) parameters arguments)
  | _, _ => none

/-- The fault of a call. -/
def callFault? (around : Surroundings) (procedure : Text) (arguments : List Expression) :
    Option StatementFault :=
  match around.procedures.find? procedure with
  | none => some (.undeclaredProcedure procedure)
  | some signature =>
    let expected := signature.parameters.length
    let given := arguments.length
    if given < expected then some (.tooFewArguments procedure expected given)
    else if expected < given then some (.tooManyArguments procedure expected given)
    else around.argumentsFault? procedure 1 signature.parameters arguments

end Surroundings

mutual

/-- The first fault of a statement. -/
def Statement.fault? (around : Surroundings) : Statement → Option StatementFault
  | .assign target value => around.assignFault? target value
  | .block body => Statement.bodyFault? around body
  | .ifThen condition body =>
    (around.conditionFault? .branch condition).or (body.fault? around)
  | .ifElse condition body otherwise =>
    ((around.conditionFault? .branch condition).or (body.fault? around)).or
      ((otherwise.fault? around).map .inElse)
  | .times count body => (around.conditionFault? .times count).or (body.fault? around)
  | .loop condition body => (around.conditionFault? .loop condition).or (body.fault? around)
  | .inform notice value => around.informFault? notice value
  | .moveTo x y => around.cornerFault? "Pos" x y
  | .exchange mode value recipient => around.exchangeFault? mode value recipient
  | .corner mode x y => around.cornerFault? mode.keyword x y
  | .call procedure arguments => around.callFault? procedure arguments

/-- The first fault of a body. -/
def Statement.bodyFault? (around : Surroundings) : List Statement → Option StatementFault
  | [] => none
  | first :: rest => (first.fault? around).or (Statement.bodyFault? around rest)

end

/-- The first fault of a node as a statement. -/
def Node.fault? (around : Surroundings) : Node → Option StatementFault
  | .statement part => part.fault? around
  | node => some (.notStatement node.kindName)

end RobotCity
