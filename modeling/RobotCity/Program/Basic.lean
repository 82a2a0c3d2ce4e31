import RobotCity.City
import RobotCity.Json.Basic
import RobotCity.Program.Vocabulary

/-!
# Programs

A program moves robots about a city whose streets and avenues form a grid.  It declares areas,
robot types, the robots themselves and procedures, and sets the robots up before they start: which
areas they hold, what they carry and where they stand.
-/

namespace RobotCity

/-- An expression.  Operators and queries are kept as they are written, known or not. -/
inductive Expression where
  | integer (value : Int)
  | boolean (value : Bool)
  | variable (name : Text)
  | query (name : Text)
  | unary (operator : Text) (operand : Expression)
  | binary (operator : Text) (left right : Expression)
  deriving DecidableEq, Repr

/-- What `Informar` shows first. -/
inductive Notice where
  | text (content : Text)
  | value (expression : Expression)
  deriving DecidableEq, Repr

/-- A statement. -/
inductive Statement where
  /-- `target := value` -/
  | assign (target : Text) (value : Expression)
  /-- A list of statements, which opens no scope of its own. -/
  | block (body : List Statement)
  /-- `si condition body` -/
  | ifThen (condition : Expression) (body : Statement)
  /-- `si condition body sino otherwise` -/
  | ifElse (condition : Expression) (body otherwise : Statement)
  /-- `repetir count body` -/
  | times (count : Expression) (body : Statement)
  /-- `mientras condition body` -/
  | loop (condition : Expression) (body : Statement)
  /-- `Informar(notice, value)` -/
  | inform (notice : Notice) (value : Option Expression)
  /-- `Pos(x, y)` -/
  | moveTo (x y : Expression)
  /-- `EnviarMensaje(value, recipient)` or `RecibirMensaje(value, recipient)` -/
  | exchange (mode : MessageMode) (value : Expression) (recipient : Text)
  /-- `BloquearEsquina(x, y)` or `LiberarEsquina(x, y)` -/
  | corner (mode : CornerMode) (x y : Expression)
  /-- `procedure(arguments)` -/
  | call (procedure : Text) (arguments : List Expression)

/-- The declaration of a local variable. -/
structure Variable where
  name : Text
  type : ValueType
  deriving DecidableEq, Repr

/-- The declaration of a parameter. -/
structure Parameter where
  passing : Passing
  name : Text
  type : ValueType
  deriving DecidableEq, Repr

/-- The declaration of a procedure. -/
structure Procedure where
  name : Text
  parameters : List Parameter
  locals : List Variable
  body : List Statement

/-- The declaration of a robot type. -/
structure RobotType where
  name : Text
  locals : List Variable
  body : List Statement

/-- The declaration of an area. -/
structure Area where
  name : Text
  /-- How many robots may hold it. -/
  occupancy : Occupancy
  /-- Where it lies. -/
  extent : Rectangle
  deriving DecidableEq, Repr

/-- The declaration of a robot. -/
structure Robot where
  name : Text
  type : Text
  deriving DecidableEq, Repr

/-- An area given to a robot. -/
structure Grant where
  robot : Text
  area : Text
  deriving DecidableEq, Repr

/-- Items given to a robot, the same quantity of every kind. -/
structure Supply where
  robot : Text
  kinds : List Text
  /-- How many of each kind. -/
  quantity : Int
  deriving DecidableEq, Repr

/-- The corner at which a robot starts. -/
structure Origin where
  robot : Text
  point : Point
  deriving DecidableEq, Repr

/-- What is settled before the robots start. -/
structure Setup where
  grants : List Grant
  supplies : List Supply
  origins : List Origin
  deriving DecidableEq, Repr

/-- A program. -/
structure Program where
  /-- The name as the document gives it, the empty text if it gives none. -/
  name : Json
  procedures : List Procedure
  areas : List Area
  robotTypes : List RobotType
  robots : List Robot
  setup : Setup

namespace Statement

mutual

/-- Whether two statements are the same. -/
def same : Statement → Statement → Bool
  | .assign target value, .assign target' value' => target == target' && value == value'
  | .block body, .block body' => sameBody body body'
  | .ifThen condition body, .ifThen condition' body' => condition == condition' && same body body'
  | .ifElse condition body otherwise, .ifElse condition' body' otherwise' =>
    condition == condition' && same body body' && same otherwise otherwise'
  | .times count body, .times count' body' => count == count' && same body body'
  | .loop condition body, .loop condition' body' => condition == condition' && same body body'
  | .inform notice value, .inform notice' value' => notice == notice' && value == value'
  | .moveTo x y, .moveTo x' y' => x == x' && y == y'
  | .exchange mode value recipient, .exchange mode' value' recipient' =>
    mode == mode' && value == value' && recipient == recipient'
  | .corner mode x y, .corner mode' x' y' => mode == mode' && x == x' && y == y'
  | .call procedure arguments, .call procedure' arguments' =>
    procedure == procedure' && arguments == arguments'
  | _, _ => false

/-- Whether two lists hold the same statements. -/
def sameBody : List Statement → List Statement → Bool
  | [], [] => true
  | first :: rest, first' :: rest' => same first first' && sameBody rest rest'
  | _, _ => false

end

mutual

theorem same_iff (a b : Statement) : same a b = true ↔ a = b := by
  cases a with
  | block body =>
    cases b with
    | block body' => simpa [same] using sameBody_iff body body'
    | _ => simp [same]
  | ifThen condition body =>
    cases b with
    | ifThen condition' body' => simp [same, same_iff body body']
    | _ => simp [same]
  | ifElse condition body otherwise =>
    cases b with
    | ifElse condition' body' otherwise' =>
      simp [same, same_iff body body', same_iff otherwise otherwise', and_assoc]
    | _ => simp [same]
  | times count body =>
    cases b with
    | times count' body' => simp [same, same_iff body body']
    | _ => simp [same]
  | loop condition body =>
    cases b with
    | loop condition' body' => simp [same, same_iff body body']
    | _ => simp [same]
  | _ => cases b <;> simp [same, and_assoc]

theorem sameBody_iff (a b : List Statement) : sameBody a b = true ↔ a = b := by
  match a, b with
  | [], [] => simp [sameBody]
  | [], _ :: _ => simp [sameBody]
  | _ :: _, [] => simp [sameBody]
  | first :: rest, first' :: rest' => simp [sameBody, same_iff first first', sameBody_iff rest rest']

end

end Statement

instance : DecidableEq Statement := fun a b => decidable_of_iff _ (Statement.same_iff a b)

deriving instance DecidableEq for Procedure, RobotType, Program

end RobotCity
