import RobotCity.Program.Basic
import RobotCity.Program.Shape
import RobotCity.Program.Tag

/-!
# Programs from documents

Each part of a program is read from an object by the names of its members; members with other names
are passed over.  Parts are read in a fixed order, and the first defect ends the reading.  What loads a
part reads it and puts this defect into words.
-/

namespace RobotCity

/-- The tag of an object. -/
def tagOf (members : List (Text × Json)) : Json :=
  Json.member members "type"

/-- What the tag of an object stands for. -/
def findTag {α : Type} (ofToken? : Text → Option α) (members : List (Text × Json)) :
    Option α :=
  match tagOf members with
  | .string token => ofToken? token
  | _ => none

/-- Read an expression. -/
def Expression.ofJson (place : Place) : Json → Except ShapeError Expression
  | .object members =>
    match findTag ExpressionTag.ofToken? members with
    | some .binary => do
      let operator ← readText place members "operator"
      let left ← Expression.ofJson (place.field "lhs") (Json.member members "lhs")
      let right ← Expression.ofJson (place.field "rhs") (Json.member members "rhs")
      return .binary operator left right
    | some .unary => do
      let operator ← readText place members "operator"
      let operand ← Expression.ofJson (place.field "rhs") (Json.member members "rhs")
      return .unary operator operand
    | some .integer => return .integer (← readInteger place members "value")
    | some .boolean => return .boolean (← readBoolean place members "value")
    | some .variable => return .variable (← readText place members "identifier")
    | some .query => return .query (← readText place members "identifier")
    | none => .error ⟨.unknownExpression (tagOf members), place⟩
  | value => .error ⟨.notObject value.kind, place⟩
termination_by value => sizeOf value
decreasing_by all_goals exact Json.sizeOf_member_lt members _

/-- Read an expression under a name of an object. -/
def readExpression (place : Place) (members : List (Text × Json)) (name : String) :
    Except ShapeError Expression :=
  Expression.ofJson (place.field name) (Json.member members name)

/-- Read what `Informar` shows first. -/
def Notice.ofJson (place : Place) (value : Json) : Except ShapeError Notice := do
  let members ← readObject place value
  if tagOf members = .string textTag then return .text (← readText place members "value")
  else return .value (← Expression.ofJson place value)

/-- Read an expression that may be left out; an empty value stands for none. -/
def readOptionalExpression (place : Place) (members : List (Text × Json)) (name : String) :
    Except ShapeError (Option Expression) := do
  if (Json.member members name).isGiven then return some (← readExpression place members name)
  else return none

mutual

/-- Read a statement. -/
def Statement.ofJson (place : Place) : Json → Except ShapeError Statement
  | .object members =>
    match findTag StatementTag.ofToken? members with
    | some .assign => do
      let target ← readText place members "identifier"
      let value ← readExpression place members "value"
      return .assign target value
    | some .block =>
      match _ : readList place members "body" with
      | .error error => .error error
      | .ok items => return .block (← Statement.bodyOfJson (place.field "body") 0 items)
    | some .branch => do
      let condition ← readExpression place members "condition"
      let body ← Statement.ofJson (place.field "body") (Json.member members "body")
      if (Json.member members "else_body").isGiven then
        let otherwise ← Statement.ofJson (place.field "else_body") (Json.member members "else_body")
        return .ifElse condition body otherwise
      else return .ifThen condition body
    | some .times => do
      let count ← readExpression place members "condition"
      let body ← Statement.ofJson (place.field "body") (Json.member members "body")
      return .times count body
    | some .loop => do
      let condition ← readExpression place members "condition"
      let body ← Statement.ofJson (place.field "body") (Json.member members "body")
      return .loop condition body
    | some .inform => do
      let notice ← Notice.ofJson (place.field "arg1") (Json.member members "arg1")
      let value ← readOptionalExpression place members "arg2"
      return .inform notice value
    | some .moveTo => do
      let x ← readExpression place members "x"
      let y ← readExpression place members "y"
      return .moveTo x y
    | some .exchange => do
      let mode ← readToken MessageMode.tokens place members "mode"
      let value ← readExpression place members "value"
      let recipient ← readText place members "who"
      return .exchange mode value recipient
    | some .corner => do
      let mode ← readToken CornerMode.tokens place members "mode"
      let x ← readExpression place members "x"
      let y ← readExpression place members "y"
      return .corner mode x y
    | some .call => do
      let procedure ← readText place members "identifier"
      let items ← readOptionalList place members "parameters"
      let arguments ← readEach Expression.ofJson (place.field "parameters") 0 items
      return .call procedure arguments
    | none => .error ⟨.unknownStatement (tagOf members), place⟩
  | value => .error ⟨.notObject value.kind, place⟩
termination_by value => sizeOf value
decreasing_by
  all_goals first
    | exact Json.sizeOf_member_lt members _
    | exact sizeOf_readList_lt (by assumption)

/-- Read the statements of a body from a position on. -/
def Statement.bodyOfJson (place : Place) (index : Nat) :
    List Json → Except ShapeError (List Statement)
  | [] => .ok []
  | value :: rest => do
    let first ← Statement.ofJson (place.item index) value
    let others ← Statement.bodyOfJson place (index + 1) rest
    return first :: others
termination_by items => sizeOf items

end

/-- Read the declaration of a local variable. -/
def Variable.ofJson (place : Place) (value : Json) : Except ShapeError Variable := do
  let members ← readObject place value
  let name ← readText place members "identifier"
  let type ← readToken ValueType.tokens place members "type_value"
  return { name, type }

/-- Read the declaration of a parameter. -/
def Parameter.ofJson (place : Place) (value : Json) : Except ShapeError Parameter := do
  let members ← readObject place value
  let passing ← readToken Passing.tokens place members "type_parameter"
  let name ← readText place members "identifier"
  let type ← readToken ValueType.tokens place members "type_value"
  return { passing, name, type }

/-- Read the local variables of a declaration. -/
def readVariables (place : Place) (members : List (Text × Json)) :
    Except ShapeError (List Variable) := do
  let items ← readOptionalList place members "local_variables"
  readEach Variable.ofJson (place.field "local_variables") 0 items

/-- Read the statements of a declaration. -/
def readBody (place : Place) (members : List (Text × Json)) :
    Except ShapeError (List Statement) := do
  let items ← readList place members "body"
  Statement.bodyOfJson (place.field "body") 0 items

/-- Read the declaration of a procedure. -/
def Procedure.ofJson (place : Place) (value : Json) : Except ShapeError Procedure := do
  let members ← readObject place value
  let items ← readOptionalList place members "parameters"
  let parameters ← readEach Parameter.ofJson (place.field "parameters") 0 items
  let name ← readText place members "identifier"
  let locals ← readVariables place members
  let body ← readBody place members
  return { name, parameters, locals, body }

/-- Read the declaration of a robot type. -/
def RobotType.ofJson (place : Place) (value : Json) : Except ShapeError RobotType := do
  let members ← readObject place value
  let name ← readText place members "identifier"
  let locals ← readVariables place members
  let body ← readBody place members
  return { name, locals, body }

/-- Read the two coordinates of a corner. -/
def readPoint (place : Place) (members : List (Text × Json)) : Except ShapeError Point := do
  let x ← readInteger place members "x"
  let y ← readInteger place members "y"
  return { x, y }

/-- Read a corner. -/
def Point.ofJson (place : Place) (value : Json) : Except ShapeError Point := do
  let members ← readObject place value
  readPoint place members

/-- Read the declaration of an area. -/
def Area.ofJson (place : Place) (value : Json) : Except ShapeError Area := do
  let members ← readObject place value
  let name ← readText place members "identifier"
  let occupancy ← readToken Occupancy.tokens place members "type"
  let low ← Point.ofJson (place.field "a") (Json.member members "a")
  let high ← Point.ofJson (place.field "b") (Json.member members "b")
  return { name, occupancy, extent := { low, high } }

/-- Read the declaration of a robot. -/
def Robot.ofJson (place : Place) (value : Json) : Except ShapeError Robot := do
  let members ← readObject place value
  let name ← readText place members "identifier"
  let type ← readText place members "type"
  return { name, type }

/-- Read the record of an area given to a robot. -/
def Grant.ofJson (place : Place) (value : Json) : Except ShapeError Grant := do
  let members ← readObject place value
  let robot ← readText place members "identifier"
  let area ← readText place members "type"
  return { robot, area }

/-- Read the record of items given to a robot. -/
def Supply.ofJson (place : Place) (value : Json) : Except ShapeError Supply := do
  let members ← readObject place value
  let kinds ← readTexts place members "type"
  let robot ← readText place members "identifier"
  let quantity ← readInteger place members "value"
  return { robot, kinds, quantity }

/-- Read the record of the corner at which a robot starts. -/
def Origin.ofJson (place : Place) (value : Json) : Except ShapeError Origin := do
  let members ← readObject place value
  let robot ← readText place members "identifier"
  let point ← readPoint place members
  return { robot, point }

/-- The place of the setup in a program document. -/
def Setup.place : Place := Place.program.field "INITS"

/-- Read the three lists of a setup. -/
def Setup.ofMembers (members : List (Text × Json)) : Except ShapeError Setup := do
  let grants ← readOptionalList Setup.place members "assign_areas"
  let grants ← readEach Grant.ofJson (Setup.place.field "assign_areas") 0 grants
  let supplies ← readOptionalList Setup.place members "assign_items"
  let supplies ← readEach Supply.ofJson (Setup.place.field "assign_items") 0 supplies
  let origins ← readOptionalList Setup.place members "assign_origins"
  let origins ← readEach Origin.ofJson (Setup.place.field "assign_origins") 0 origins
  return { grants, supplies, origins }

/-- Read a setup. -/
def Setup.ofJson (place : Place) (value : Json) : Except ShapeError Setup := do
  let members ← readObject place value
  Setup.ofMembers members

/-- The document of a program without the envelope that may be around it. -/
def unwrapped : Json → Json
  | .object members =>
    if tagOf members = .string envelopeTag then (Json.member? members "value").getD (.object members)
    else .object members
  | value => value

/-- The name of a program: what its document gives, or the empty text if that is nothing. -/
def nameOf (members : List (Text × Json)) : Json :=
  match Json.member members "NAME" with
  | .object name =>
    let given := Json.member name "identifier"
    if given.isGiven then given else .string .empty
  | _ => .string .empty

/-- Read the declarations under a name of the program document. -/
def readDeclarations {α : Type} (read : Place → Json → Except ShapeError α)
    (members : List (Text × Json)) (name : String) : Except ShapeError (List α) := do
  let items ← readOptionalList .program members name
  readEach read (Place.program.field name) 0 items

/-- Read a program, with or without an envelope. -/
def Program.ofJson (document : Json) : Except ShapeError Program := do
  let members ← readObject .program (unwrapped document)
  let procedures ← readDeclarations Procedure.ofJson members "PROCEDURES"
  let areas ← readDeclarations Area.ofJson members "AREAS"
  let robotTypes ← readDeclarations RobotType.ofJson members "ROBOT_TYPES"
  let robots ← readDeclarations Robot.ofJson members "INSTANCES"
  let setup ← Setup.ofJson Setup.place ((Json.member? members "INITS").getD (.object []))
  return { name := nameOf members, procedures, areas, robotTypes, robots, setup }

/-- Load what a reader reads: the defect with which it ends has to be put into words. -/
def loadBy {α : Type} (read : Place → Json → Except ShapeError α) (place : Place) (value : Json) :
    Except LoadError α :=
  (read place value).mapError ShapeError.raised

/-- Load a program document. -/
def Program.load (document : Json) : Except LoadError Program :=
  loadBy (fun _ => Program.ofJson) .program document

end RobotCity
