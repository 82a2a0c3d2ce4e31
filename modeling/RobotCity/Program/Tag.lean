import RobotCity.Text.Basic

/-!
# Tags

In a program document every statement and expression is an object whose member `type` holds a tag.
-/

namespace RobotCity

/-- The tag of an expression. -/
inductive ExpressionTag where
  | integer
  | boolean
  | variable
  | query
  | unary
  | binary
  deriving DecidableEq, Repr

namespace ExpressionTag

/-- The token of a tag. -/
def token : ExpressionTag → Text
  | .integer => "LITERAL_INTEGER"
  | .boolean => "LITERAL_BOOLEAN"
  | .variable => "VARIABLE"
  | .query => "STATE_METHOD"
  | .unary => "UNARY_OPERATION"
  | .binary => "BINARY_OPERATION"

/-- All tags. -/
def all : List ExpressionTag :=
  [.integer, .boolean, .variable, .query, .unary, .binary]

/-- The tag with a token. -/
def ofToken? (token : Text) : Option ExpressionTag :=
  all.find? fun tag => tag.token == token

@[simp]
theorem ofToken?_token (tag : ExpressionTag) : ofToken? tag.token = some tag := by
  cases tag <;> simp [ofToken?, all, token]

end ExpressionTag

/-- The tag of a statement. -/
inductive StatementTag where
  | assign
  | block
  | branch
  | times
  | loop
  | inform
  | moveTo
  | exchange
  | corner
  | call
  deriving DecidableEq, Repr

namespace StatementTag

/-- The token of a tag. -/
def token : StatementTag → Text
  | .assign => "STATEMENT_ASSIGN"
  | .block => "STATEMENT_BLOCK"
  | .branch => "IF"
  | .times => "FOR"
  | .loop => "WHILE"
  | .inform => "INFORM"
  | .moveTo => "CHANGE_POSITION"
  | .exchange => "MESSAGE"
  | .corner => "CONTROL_CORNER"
  | .call => "CALL_PROCEDURE"

/-- All tags. -/
def all : List StatementTag :=
  [.assign, .block, .branch, .times, .loop, .inform, .moveTo, .exchange, .corner, .call]

/-- The tag with a token. -/
def ofToken? (token : Text) : Option StatementTag :=
  all.find? fun tag => tag.token == token

@[simp]
theorem ofToken?_token (tag : StatementTag) : ofToken? tag.token = some tag := by
  cases tag <;> simp [ofToken?, all, token]

end StatementTag

/-- The tag of a text, which stands for itself in `Informar` only. -/
def textTag : Text := "STRING_LITERAL"

/-- The tag of the envelope around a program. -/
def envelopeTag : Text := "PROGRAM"

end RobotCity
