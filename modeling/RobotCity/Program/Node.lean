import RobotCity.Program.OfJson
import RobotCity.Program.ToJson

/-!
# Nodes

A node is any part of a program, alone, or a value that is no part of a program at all.  Nodes of all
kinds can be written and checked; a check that meets a node of a kind it has no rule for says so by
the name of the kind.
-/

namespace RobotCity

/-- A part of a program, or a value that stands where one is expected. -/
inductive Node where
  | program (program : Program)
  | procedure (procedure : Procedure)
  | robotType (robotType : RobotType)
  | area (area : Area)
  | robot (robot : Robot)
  | setup (setup : Setup)
  | variable (declared : Variable)
  | parameter (parameter : Parameter)
  | point (point : Point)
  | statement (statement : Statement)
  | expression (expression : Expression)
  | text (content : Text)
  | value (value : Json)
  | list (nodes : List Node)

/-- The name of the kind of an expression. -/
def Expression.kindName : Expression → String
  | .integer _ => "IntegerLiteral"
  | .boolean _ => "BooleanLiteral"
  | .variable _ => "VariableRef"
  | .query _ => "StateQueryExpr"
  | .unary _ _ => "UnaryExpr"
  | .binary _ _ _ => "BinaryExpr"

/-- The name of the kind of a statement. -/
def Statement.kindName : Statement → String
  | .assign _ _ => "AssignStmt"
  | .block _ => "BlockStmt"
  | .ifThen _ _ | .ifElse _ _ _ => "IfStmt"
  | .times _ _ => "ForStmt"
  | .loop _ _ => "WhileStmt"
  | .inform _ _ => "InformStmt"
  | .moveTo _ _ => "ChangePositionStmt"
  | .exchange _ _ _ => "MessageStmt"
  | .corner _ _ _ => "CornerStmt"
  | .call _ _ => "CallStmt"

namespace Node

/-- The name of the kind of a node. -/
def kindName : Node → String
  | .program _ => "Program"
  | .procedure _ => "Procedure"
  | .robotType _ => "RobotType"
  | .area _ => "Area"
  | .robot _ => "Instance"
  | .setup _ => "InitBlock"
  | .variable _ => "Variable"
  | .parameter _ => "Parameter"
  | .point _ => "Point"
  | .statement part => part.kindName
  | .expression part => part.kindName
  | .text _ => "StringLiteral"
  | .value given => given.kind.name
  | .list _ => Json.Kind.array.name

mutual

/-- The kind of the first item of a value that cannot be written as a part of a program: only null
and lists of what can be written are. -/
def foreignKind? : Json → Option Json.Kind
  | .null => none
  | .array items => foreignItem? items
  | given => some given.kind

/-- The kind of the first item of a list that cannot be written as a part of a program. -/
def foreignItem? : List Json → Option Json.Kind
  | [] => none
  | first :: rest => (foreignKind? first).or (foreignItem? rest)

end

mutual

/-- Write a node.  The error is the kind of a value that is no part of a program. -/
def toJson : Node → Except Json.Kind Json
  | .program part => .ok part.toJson
  | .procedure part => .ok part.toJson
  | .robotType part => .ok part.toJson
  | .area part => .ok part.toJson
  | .robot part => .ok part.toJson
  | .setup part => .ok part.toJson
  | .variable declared => .ok declared.toJson
  | .parameter part => .ok part.toJson
  | .point part => .ok part.toJson
  | .statement part => .ok part.toJson
  | .expression part => .ok part.toJson
  | .text content => .ok (textToJson content)
  | .value given =>
    match foreignKind? given with
    | none => .ok given
    | some kind => .error kind
  | .list nodes => return .array (← listToJson nodes)

/-- Write a list of nodes. -/
def listToJson : List Node → Except Json.Kind (List Json)
  | [] => return []
  | first :: rest => do
    let written ← toJson first
    let others ← listToJson rest
    return written :: others

end

/-- Write a node, a program in an envelope if one is asked for. -/
def toDocument (enveloped : Bool) : Node → Except Json.Kind Json
  | .program part => .ok (part.toDocument enveloped)
  | node => node.toJson

/-- The wording of the refusal to write a value that is no part of a program. -/
def foreignMessage (kind : Json.Kind) : String :=
  s!"Unknown node type: <class '{kind.name}'>"

end Node
end RobotCity
