import Mathlib.Data.List.Forall2
import RobotCity.Program.OfJson

/-!
# The spelling of programs

How each part of a program is spelled in a document, by what stands under the names of its objects.
Where an object has further members, and in which order its members stand, is left open.
-/

namespace RobotCity

open Json (member member?)

namespace Json

variable {α : Type}

/-- An object spells a part. -/
inductive Spells (spelledBy : List (Text × Json) → α → Prop) : Json → α → Prop
  | object {members : List (Text × Json)} {part : α} :
    spelledBy members part → Spells spelledBy (.object members) part

/-- A list, which has to be there, spells parts, each of its items one of them. -/
inductive Lists (spelled : Json → α → Prop) (members : List (Text × Json)) (name : String) :
    List α → Prop
  | all {items : List Json} {parts : List α} : member? members name = some (.array items) →
    List.Forall₂ spelled items parts → Lists spelled members name parts

/-- A list that may be left out spells parts: none if it is left out. -/
inductive ListsIfNamed (spelled : Json → α → Prop) (members : List (Text × Json)) (name : String) :
    List α → Prop
  | missing : member? members name = none → ListsIfNamed spelled members name []
  | named {parts : List α} : Lists spelled members name parts →
    ListsIfNamed spelled members name parts

/-- A value spells a part that may be left out: none if the value does not count as given. -/
inductive SpellsIfGiven (spelled : Json → α → Prop) (value : Json) : Option α → Prop
  | nothing : value.isGiven = false → SpellsIfGiven spelled value none
  | given {part : α} : value.isGiven → spelled value part →
    SpellsIfGiven spelled value (some part)

end Json

/-- How an expression is spelled. -/
inductive Expression.Spelled : Json → Expression → Prop
  | integer {members : List (Text × Json)} {value : Int} :
    member members "type" = .string "LITERAL_INTEGER" →
    member members "value" = .integer value → Spelled (.object members) (.integer value)
  | boolean {members : List (Text × Json)} {value : Bool} :
    member members "type" = .string "LITERAL_BOOLEAN" →
    member members "value" = .boolean value → Spelled (.object members) (.boolean value)
  | variable {members : List (Text × Json)} {name : Text} :
    member members "type" = .string "VARIABLE" →
    member members "identifier" = .string name → Spelled (.object members) (.variable name)
  | query {members : List (Text × Json)} {name : Text} :
    member members "type" = .string "STATE_METHOD" →
    member members "identifier" = .string name → Spelled (.object members) (.query name)
  | unary {members : List (Text × Json)} {operator : Text} {operand : Expression} :
    member members "type" = .string "UNARY_OPERATION" →
    member members "operator" = .string operator → Spelled (member members "rhs") operand →
    Spelled (.object members) (.unary operator operand)
  | binary {members : List (Text × Json)} {operator : Text} {left right : Expression} :
    member members "type" = .string "BINARY_OPERATION" →
    member members "operator" = .string operator → Spelled (member members "lhs") left →
    Spelled (member members "rhs") right →
    Spelled (.object members) (.binary operator left right)

/-- How what `Informar` shows first is spelled. -/
inductive Notice.Spelled : Json → Notice → Prop
  | text {members : List (Text × Json)} {content : Text} :
    member members "type" = .string "STRING_LITERAL" →
    member members "value" = .string content → Spelled (.object members) (.text content)
  | value {document : Json} {expression : Expression} :
    expression.Spelled document → Spelled document (.value expression)

/-- How a statement is spelled. -/
inductive Statement.Spelled : Json → Statement → Prop
  | assign {members : List (Text × Json)} {target : Text} {value : Expression} :
    member members "type" = .string "STATEMENT_ASSIGN" →
    member members "identifier" = .string target → value.Spelled (member members "value") →
    Spelled (.object members) (.assign target value)
  | block {members : List (Text × Json)} {items : List Json} {body : List Statement} :
    member members "type" = .string "STATEMENT_BLOCK" →
    member? members "body" = some (.array items) → List.Forall₂ Spelled items body →
    Spelled (.object members) (.block body)
  | ifThen {members : List (Text × Json)} {condition : Expression} {body : Statement} :
    member members "type" = .string "IF" → condition.Spelled (member members "condition") →
    Spelled (member members "body") body → (member members "else_body").isGiven = false →
    Spelled (.object members) (.ifThen condition body)
  | ifElse {members : List (Text × Json)} {condition : Expression} {body otherwise : Statement} :
    member members "type" = .string "IF" → condition.Spelled (member members "condition") →
    Spelled (member members "body") body → (member members "else_body").isGiven = true →
    Spelled (member members "else_body") otherwise →
    Spelled (.object members) (.ifElse condition body otherwise)
  | times {members : List (Text × Json)} {count : Expression} {body : Statement} :
    member members "type" = .string "FOR" → count.Spelled (member members "condition") →
    Spelled (member members "body") body → Spelled (.object members) (.times count body)
  | loop {members : List (Text × Json)} {condition : Expression} {body : Statement} :
    member members "type" = .string "WHILE" → condition.Spelled (member members "condition") →
    Spelled (member members "body") body → Spelled (.object members) (.loop condition body)
  | inform {members : List (Text × Json)} {notice : Notice} {value : Option Expression} :
    member members "type" = .string "INFORM" → notice.Spelled (member members "arg1") →
    (member members "arg2").SpellsIfGiven Expression.Spelled value →
    Spelled (.object members) (.inform notice value)
  | moveTo {members : List (Text × Json)} {x y : Expression} :
    member members "type" = .string "CHANGE_POSITION" → x.Spelled (member members "x") →
    y.Spelled (member members "y") → Spelled (.object members) (.moveTo x y)
  | exchange {members : List (Text × Json)} {mode : MessageMode} {value : Expression}
      {recipient : Text} :
    member members "type" = .string "MESSAGE" → member members "mode" = .string mode.token →
    value.Spelled (member members "value") → member members "who" = .string recipient →
    Spelled (.object members) (.exchange mode value recipient)
  | corner {members : List (Text × Json)} {mode : CornerMode} {x y : Expression} :
    member members "type" = .string "CONTROL_CORNER" →
    member members "mode" = .string mode.token → x.Spelled (member members "x") →
    y.Spelled (member members "y") → Spelled (.object members) (.corner mode x y)
  | call {members : List (Text × Json)} {procedure : Text} {arguments : List Expression} :
    member members "type" = .string "CALL_PROCEDURE" →
    member members "identifier" = .string procedure →
    Json.ListsIfNamed Expression.Spelled members "parameters" arguments →
    Spelled (.object members) (.call procedure arguments)

/-- How a local variable is spelled. -/
structure Variable.SpelledBy (members : List (Text × Json)) (declared : Variable) : Prop where
  name : member members "identifier" = .string declared.name
  type : member members "type_value" = .string declared.type.token

/-- How a parameter is spelled. -/
structure Parameter.SpelledBy (members : List (Text × Json)) (parameter : Parameter) : Prop where
  passing : member members "type_parameter" = .string parameter.passing.token
  name : member members "identifier" = .string parameter.name
  type : member members "type_value" = .string parameter.type.token

/-- How a procedure is spelled. -/
structure Procedure.SpelledBy (members : List (Text × Json)) (procedure : Procedure) : Prop where
  name : member members "identifier" = .string procedure.name
  parameters : Json.ListsIfNamed (Json.Spells Parameter.SpelledBy) members "parameters"
    procedure.parameters
  locals : Json.ListsIfNamed (Json.Spells Variable.SpelledBy) members "local_variables"
    procedure.locals
  body : Json.Lists Statement.Spelled members "body" procedure.body

/-- How a robot type is spelled. -/
structure RobotType.SpelledBy (members : List (Text × Json)) (robotType : RobotType) : Prop where
  name : member members "identifier" = .string robotType.name
  locals : Json.ListsIfNamed (Json.Spells Variable.SpelledBy) members "local_variables"
    robotType.locals
  body : Json.Lists Statement.Spelled members "body" robotType.body

/-- How a corner of the city is spelled. -/
structure Point.SpelledBy (members : List (Text × Json)) (point : Point) : Prop where
  x : member members "x" = .integer point.x
  y : member members "y" = .integer point.y

/-- How an area is spelled. -/
structure Area.SpelledBy (members : List (Text × Json)) (area : Area) : Prop where
  name : member members "identifier" = .string area.name
  occupancy : member members "type" = .string area.occupancy.token
  low : (member members "a").Spells Point.SpelledBy area.extent.low
  high : (member members "b").Spells Point.SpelledBy area.extent.high

/-- How a robot is spelled. -/
structure Robot.SpelledBy (members : List (Text × Json)) (robot : Robot) : Prop where
  name : member members "identifier" = .string robot.name
  type : member members "type" = .string robot.type

/-- How an area given to a robot is spelled. -/
structure Grant.SpelledBy (members : List (Text × Json)) (grant : Grant) : Prop where
  robot : member members "identifier" = .string grant.robot
  area : member members "type" = .string grant.area

/-- How items given to a robot are spelled. -/
structure Supply.SpelledBy (members : List (Text × Json)) (supply : Supply) : Prop where
  robot : member members "identifier" = .string supply.robot
  kinds : member? members "type" = some (.array (supply.kinds.map .string))
  quantity : member members "value" = .integer supply.quantity

/-- How the corner at which a robot starts is spelled. -/
structure Origin.SpelledBy (members : List (Text × Json)) (origin : Origin) : Prop where
  robot : member members "identifier" = .string origin.robot
  x : member members "x" = .integer origin.point.x
  y : member members "y" = .integer origin.point.y

/-- How a setup is spelled. -/
structure Setup.SpelledBy (members : List (Text × Json)) (setup : Setup) : Prop where
  grants : Json.ListsIfNamed (Json.Spells Grant.SpelledBy) members "assign_areas" setup.grants
  supplies : Json.ListsIfNamed (Json.Spells Supply.SpelledBy) members "assign_items"
    setup.supplies
  origins : Json.ListsIfNamed (Json.Spells Origin.SpelledBy) members "assign_origins"
    setup.origins

/-- How the setup of a program is spelled: what is missing stands for a setup without records. -/
inductive Setup.SpelledIn (members : List (Text × Json)) : Setup → Prop
  | missing : member? members "INITS" = none →
    SpelledIn members { grants := [], supplies := [], origins := [] }
  | named {value : Json} {setup : Setup} : member? members "INITS" = some value →
    value.Spells Setup.SpelledBy setup → SpelledIn members setup

/-- The name of a program is what its label has under `identifier`, if this counts as given.  A label
may be anything; where it gives no name, the name is the empty text. -/
inductive Program.NamedBy (members : List (Text × Json)) : Json → Prop
  | label {label : List (Text × Json)} {name : Json} :
    member? members "NAME" = some (.object label) → member? label "identifier" = some name →
    name.isGiven → NamedBy members name
  | nothing : (∀ label name, member? members "NAME" = some (.object label) →
      member? label "identifier" = some name → name.isGiven = false) →
    NamedBy members (.string .empty)

/-- How a program is spelled, without the envelope that may be around it. -/
structure Program.SpelledBy (members : List (Text × Json)) (program : Program) : Prop where
  name : NamedBy members program.name
  procedures : Json.ListsIfNamed (Json.Spells Procedure.SpelledBy) members "PROCEDURES"
    program.procedures
  areas : Json.ListsIfNamed (Json.Spells Area.SpelledBy) members "AREAS" program.areas
  robotTypes : Json.ListsIfNamed (Json.Spells RobotType.SpelledBy) members "ROBOT_TYPES"
    program.robotTypes
  robots : Json.ListsIfNamed (Json.Spells Robot.SpelledBy) members "INSTANCES" program.robots
  setup : Setup.SpelledIn members program.setup

/-- An envelope is an object with the tag of programs and a value.  It is taken off once; what is not
an envelope stays as it is. -/
inductive Json.Unwraps : Json → Json → Prop
  | envelope {members : List (Text × Json)} {value : Json} :
    member? members "type" = some (.string "PROGRAM") → member? members "value" = some value →
    Unwraps (.object members) value
  | bare {document : Json} :
    (∀ members value, document = .object members →
      member? members "type" = some (.string "PROGRAM") → member? members "value" ≠ some value) →
    Unwraps document document

/-- How a program is spelled. -/
def Program.Spelled (document : Json) (program : Program) : Prop :=
  ∃ inner, document.Unwraps inner ∧ inner.Spells Program.SpelledBy program

end RobotCity
