import RobotCity.NameTable
import RobotCity.Program.Node
import RobotCity.Verdict

/-!
# Types of expressions

The type of an expression is found from its parts, the left one before the right one, and the first
fault on the way is the fault of the whole.  A scope may give its variables types of any name; only
equality is defined on all of them.
-/

namespace RobotCity

/-- The names that can be used at a place, with the names of their types. -/
abbrev Scope := NameTable Text

/-- What an operator between two operands asks of them. -/
inductive OperatorFamily where
  /-- Two numbers that make a number. -/
  | arithmetic
  /-- Two numbers that make a truth value. -/
  | relational
  /-- Two truth values that make a truth value. -/
  | logical
  /-- Two values of one type that make a truth value. -/
  | equality
  deriving DecidableEq, Repr

namespace OperatorFamily

/-- The operators between two operands. -/
def operators : List (Text × OperatorFamily) :=
  [ ("+", .arithmetic), ("-", .arithmetic), ("*", .arithmetic), ("/", .arithmetic)
  , (">", .relational), (">=", .relational), ("<", .relational), ("<=", .relational)
  , ("&", .logical), ("|", .logical)
  , ("=", .equality), ("!=", .equality) ]

/-- The family of an operator. -/
def ofOperator? (operator : Text) : Option OperatorFamily :=
  operators.lookup operator

/-- The type that both operands must have, if one is prescribed. -/
def operand? : OperatorFamily → Option ValueType
  | .arithmetic | .relational => some .numeric
  | .logical => some .boolean
  | .equality => none

/-- The type of the result. -/
def result : OperatorFamily → ValueType
  | .arithmetic => .numeric
  | .relational | .logical | .equality => .boolean

end OperatorFamily

/-- An operator in front of one operand. -/
inductive Sign where
  /-- `-`, of a number. -/
  | minus
  /-- `~`, of a truth value. -/
  | not
  deriving DecidableEq, Repr

namespace Sign

/-- The operators in front of one operand. -/
def operators : List (Text × Sign) :=
  [("-", .minus), ("~", .not)]

/-- The sign that an operator stands for. -/
def ofOperator? (operator : Text) : Option Sign :=
  operators.lookup operator

/-- The type of the operand, which is that of the result. -/
def type : Sign → ValueType
  | .minus => .numeric
  | .not => .boolean

end Sign

/-- Why an expression has no type. -/
inductive TypeFault where
  | undeclared (name : Text)
  | unknownQuery (query : Text)
  | wrongOperand (sign : Sign) (found : Text)
  | wrongLeft (operator : Text) (expected : ValueType)
  | wrongRight (operator : Text) (expected : ValueType)
  | unequal (operator : Text)
  | unknownUnary (operator : Text)
  | unknownBinary (operator : Text)
  | notExpression (kind : String)
  deriving DecidableEq, Repr

namespace TypeFault

/-- The wording of a fault. -/
def message : TypeFault → String
  | .undeclared name => s!"Invalid variable, '{name}' was not declared"
  | .unknownQuery query => s!"Unknown state query '{query}'"
  | .wrongOperand .minus found =>
    s!"Cannot make a {found} value negative, misuse of operator '-'"
  | .wrongOperand .not found => s!"Cannot negate a {found} value, misuse of operator '~'"
  | .wrongLeft operator expected =>
    s!"To use operator {operator} the left operand must be of type {expected.token}"
  | .wrongRight operator expected =>
    s!"To use operator {operator} the right operand must be of type {expected.token}"
  | .unequal operator =>
    s!"To use operator {operator} the left operand must be of the same type as " ++
      "the right operand"
  | .unknownUnary operator => s!"Unknown unary operator '{operator}'"
  | .unknownBinary operator => s!"Unknown binary operator '{operator}'"
  | .notExpression kind => s!"Unknown expression node {kind}"

/-- Whether a fault lies in a broken document: something in it is unknown to every check. -/
def internal : TypeFault → Bool
  | .unknownQuery _ | .unknownUnary _ | .unknownBinary _ | .notExpression _ => true
  | _ => false

/-- A fault as a complaint. -/
def complaint (fault : TypeFault) : Complaint :=
  { message := fault.message, internal := fault.internal }

/-- A fault as the fault of what the expression is part of. -/
def report (category suffix : String) (fault : TypeFault) : Report :=
  fault.complaint.report category suffix

end TypeFault

/-- The type of a signed operand. -/
def unaryType (operator operand : Text) : Except TypeFault Text :=
  match Sign.ofOperator? operator with
  | none => .error (.unknownUnary operator)
  | some sign =>
    if operand = sign.type.token then .ok sign.type.token else .error (.wrongOperand sign operand)

/-- The type of two operands with an operator between them. -/
def binaryType (operator left right : Text) : Except TypeFault Text :=
  match OperatorFamily.ofOperator? operator with
  | none => .error (.unknownBinary operator)
  | some family =>
    match family.operand? with
    | some expected =>
      if left ≠ expected.token then .error (.wrongLeft operator expected)
      else if right ≠ expected.token then .error (.wrongRight operator expected)
      else .ok family.result.token
    | none => if left = right then .ok family.result.token else .error (.unequal operator)

/-- The type of an expression. -/
def Expression.infer (scope : Scope) : Expression → Except TypeFault Text
  | .integer _ => .ok ValueType.numeric.token
  | .boolean _ => .ok ValueType.boolean.token
  | .variable name =>
    match scope.find? name with
    | some type => .ok type
    | none => .error (.undeclared name)
  | .query name =>
    match queryType? name with
    | some type => .ok type.token
    | none => .error (.unknownQuery name)
  | .unary operator operand => do
    let operandType ← operand.infer scope
    unaryType operator operandType
  | .binary operator left right => do
    let leftType ← left.infer scope
    let rightType ← right.infer scope
    binaryType operator leftType rightType

/-- The type of a node, which has one only if it is an expression. -/
def Node.infer (scope : Scope) : Node → Except TypeFault Text
  | .expression part => part.infer scope
  | node => .error (.notExpression node.kindName)

end RobotCity
