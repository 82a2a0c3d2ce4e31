import RobotCity.Text.Basic

/-!
# The vocabulary of programs

The closed sets of words that a program is written with: value types, occupancy policies of areas,
ways of passing an argument, and the modes of messages and corner locks.  A word in a program
document is a token; a keyword is what a robot programmer writes and what a message shows.
-/

namespace RobotCity

/-- The type of a variable, a parameter or an expression. -/
inductive ValueType where
  | numeric
  | boolean
  deriving DecidableEq, Repr

namespace ValueType

/-- The types by their tokens. -/
def tokens : List (Text × ValueType) :=
  [("numero", .numeric), ("boolean", .boolean)]

/-- The token of a type, which is also its name in messages. -/
def token : ValueType → Text
  | .numeric => "numero"
  | .boolean => "boolean"

end ValueType

/-- How many robots may hold an area. -/
inductive Occupancy where
  /-- Every robot may hold it. -/
  | shared
  /-- All robots but one may hold it. -/
  | semiPrivate
  /-- One robot may hold it. -/
  | exclusive
  deriving DecidableEq, Repr

namespace Occupancy

/-- The policies by their tokens. -/
def tokens : List (Text × Occupancy) :=
  [("SHARED", .shared), ("SEMI_PRIVATE", .semiPrivate), ("PRIVATE", .exclusive)]

/-- The token of a policy. -/
def token : Occupancy → Text
  | .shared => "SHARED"
  | .semiPrivate => "SEMI_PRIVATE"
  | .exclusive => "PRIVATE"

/-- The policy of a word; a word that is not a token gives an area to one robot. -/
def ofWord (word : Text) : Occupancy :=
  (tokens.lookup word).getD .exclusive

/-- How many of `robots` robots may hold an area. -/
def capacity (robots : Int) : Occupancy → Int
  | .shared => robots
  | .semiPrivate => max (robots - 1) 1
  | .exclusive => 1

end Occupancy

/-- How a procedure takes an argument. -/
inductive Passing where
  | byValue
  | byReference
  deriving DecidableEq, Repr

namespace Passing

/-- The ways of passing by their tokens. -/
def tokens : List (Text × Passing) :=
  [("E", .byValue), ("ES", .byReference)]

/-- The token of a way of passing. -/
def token : Passing → Text
  | .byValue => "E"
  | .byReference => "ES"

end Passing

/-- The direction of a message. -/
inductive MessageMode where
  | send
  | receive
  deriving DecidableEq, Repr

namespace MessageMode

/-- The directions by their tokens. -/
def tokens : List (Text × MessageMode) :=
  [("SEND", .send), ("RECEIVE", .receive)]

/-- The token of a direction. -/
def token : MessageMode → Text
  | .send => "SEND"
  | .receive => "RECEIVE"

/-- The direction of a word; a word that is not a token receives. -/
def ofWord (word : Text) : MessageMode :=
  (tokens.lookup word).getD .receive

/-- The keyword of a direction. -/
def keyword : MessageMode → String
  | .send => "EnviarMensaje"
  | .receive => "RecibirMensaje"

end MessageMode

/-- What is done to the lock of a corner. -/
inductive CornerMode where
  | block
  | free
  deriving DecidableEq, Repr

namespace CornerMode

/-- The lock operations by their tokens. -/
def tokens : List (Text × CornerMode) :=
  [("BLOCK", .block), ("FREE", .free)]

/-- The token of a lock operation. -/
def token : CornerMode → Text
  | .block => "BLOCK"
  | .free => "FREE"

/-- The lock operation of a word; a word that is not a token frees. -/
def ofWord (word : Text) : CornerMode :=
  (tokens.lookup word).getD .free

/-- The keyword of a lock operation. -/
def keyword : CornerMode → String
  | .block => "BloquearEsquina"
  | .free => "LiberarEsquina"

end CornerMode

/-- What the built-in queries of a robot give: its position is numeric, what lies at its corner or
in its bag is a yes or no. -/
def queries : List (Text × ValueType) :=
  [ ("PosAv", .numeric)
  , ("PosCa", .numeric)
  , ("HayFlorEnLaEsquina", .boolean)
  , ("HayPapelEnLaEsquina", .boolean)
  , ("HayFlorEnLaBolsa", .boolean)
  , ("HayPapelEnLaBolsa", .boolean) ]

/-- The type of a built-in query. -/
def queryType? (name : Text) : Option ValueType :=
  queries.lookup name

end RobotCity
