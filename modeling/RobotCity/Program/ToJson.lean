import RobotCity.Program.Basic
import RobotCity.Program.Tag

/-!
# Programs as documents

Every part of a program is written as an object with all its members in a fixed order.  The document
reads back as the same program.
-/

namespace RobotCity

/-- An object that starts with a tag. -/
def tagged (tag : Text) (members : List (Text × Json)) : Json :=
  .object (("type", .string tag) :: members)

/-- Write an expression. -/
def Expression.toJson : Expression → Json
  | .integer value => tagged ExpressionTag.integer.token [("value", .integer value)]
  | .boolean value => tagged ExpressionTag.boolean.token [("value", .boolean value)]
  | .variable name => tagged ExpressionTag.variable.token [("identifier", .string name)]
  | .query name => tagged ExpressionTag.query.token [("identifier", .string name)]
  | .unary operator operand =>
    tagged ExpressionTag.unary.token [("operator", .string operator), ("rhs", operand.toJson)]
  | .binary operator left right =>
    tagged ExpressionTag.binary.token
      [("operator", .string operator), ("lhs", left.toJson), ("rhs", right.toJson)]

/-- Write a text that stands for itself. -/
def textToJson (content : Text) : Json :=
  tagged textTag [("value", .string content)]

/-- Write what `Informar` shows first. -/
def Notice.toJson : Notice → Json
  | .text content => textToJson content
  | .value expression => expression.toJson

mutual

/-- Write a statement. -/
def Statement.toJson : Statement → Json
  | .assign target value =>
    tagged StatementTag.assign.token [("identifier", .string target), ("value", value.toJson)]
  | .block body => tagged StatementTag.block.token [("body", .array (Statement.bodyToJson body))]
  | .ifThen condition body =>
    tagged StatementTag.branch.token [("condition", condition.toJson), ("body", body.toJson)]
  | .ifElse condition body otherwise =>
    tagged StatementTag.branch.token
      [("condition", condition.toJson), ("body", body.toJson), ("else_body", otherwise.toJson)]
  | .times count body =>
    tagged StatementTag.times.token [("condition", count.toJson), ("body", body.toJson)]
  | .loop condition body =>
    tagged StatementTag.loop.token [("condition", condition.toJson), ("body", body.toJson)]
  | .inform notice value =>
    tagged StatementTag.inform.token
      [("arg1", notice.toJson), ("arg2", (value.map Expression.toJson).getD (.object []))]
  | .moveTo x y => tagged StatementTag.moveTo.token [("x", x.toJson), ("y", y.toJson)]
  | .exchange mode value recipient =>
    tagged StatementTag.exchange.token
      [("mode", .string mode.token), ("value", value.toJson), ("who", .string recipient)]
  | .corner mode x y =>
    tagged StatementTag.corner.token
      [("mode", .string mode.token), ("x", x.toJson), ("y", y.toJson)]
  | .call procedure arguments =>
    tagged StatementTag.call.token
      [ ("identifier", .string procedure)
      , ("parameters", .array (arguments.map Expression.toJson)) ]

/-- Write the statements of a body. -/
def Statement.bodyToJson : List Statement → List Json
  | [] => []
  | first :: rest => first.toJson :: Statement.bodyToJson rest

end

/-- Write the declaration of a local variable. -/
def Variable.toJson (declared : Variable) : Json :=
  .object [("identifier", .string declared.name), ("type_value", .string declared.type.token)]

/-- Write the declaration of a parameter. -/
def Parameter.toJson (parameter : Parameter) : Json :=
  .object
    [ ("type_parameter", .string parameter.passing.token)
    , ("identifier", .string parameter.name)
    , ("type_value", .string parameter.type.token) ]

/-- Write the declaration of a procedure. -/
def Procedure.toJson (procedure : Procedure) : Json :=
  .object
    [ ("identifier", .string procedure.name)
    , ("parameters", .array (procedure.parameters.map Parameter.toJson))
    , ("local_variables", .array (procedure.locals.map Variable.toJson))
    , ("body", .array (Statement.bodyToJson procedure.body)) ]

/-- Write the declaration of a robot type. -/
def RobotType.toJson (robotType : RobotType) : Json :=
  .object
    [ ("identifier", .string robotType.name)
    , ("local_variables", .array (robotType.locals.map Variable.toJson))
    , ("body", .array (Statement.bodyToJson robotType.body)) ]

/-- Write a corner. -/
def Point.toJson (point : Point) : Json :=
  .object [("x", .integer point.x), ("y", .integer point.y)]

/-- Write the declaration of an area. -/
def Area.toJson (area : Area) : Json :=
  .object
    [ ("identifier", .string area.name)
    , ("type", .string area.occupancy.token)
    , ("a", area.extent.low.toJson)
    , ("b", area.extent.high.toJson) ]

/-- Write the declaration of a robot. -/
def Robot.toJson (robot : Robot) : Json :=
  .object [("identifier", .string robot.name), ("type", .string robot.type)]

/-- Write the record of an area given to a robot. -/
def Grant.toJson (grant : Grant) : Json :=
  .object [("identifier", .string grant.robot), ("type", .string grant.area)]

/-- Write the record of items given to a robot. -/
def Supply.toJson (supply : Supply) : Json :=
  .object
    [ ("identifier", .string supply.robot)
    , ("type", .array (supply.kinds.map .string))
    , ("value", .integer supply.quantity) ]

/-- Write the record of the corner at which a robot starts. -/
def Origin.toJson (origin : Origin) : Json :=
  .object
    [ ("identifier", .string origin.robot)
    , ("x", .integer origin.point.x)
    , ("y", .integer origin.point.y) ]

/-- Write a setup. -/
def Setup.toJson (setup : Setup) : Json :=
  .object
    [ ("assign_areas", .array (setup.grants.map Grant.toJson))
    , ("assign_items", .array (setup.supplies.map Supply.toJson))
    , ("assign_origins", .array (setup.origins.map Origin.toJson)) ]

/-- Write a program. -/
def Program.toJson (program : Program) : Json :=
  .object
    [ ("NAME", .object [("type", .string "NAME"), ("identifier", program.name)])
    , ("PROCEDURES", .array (program.procedures.map Procedure.toJson))
    , ("AREAS", .array (program.areas.map Area.toJson))
    , ("ROBOT_TYPES", .array (program.robotTypes.map RobotType.toJson))
    , ("INSTANCES", .array (program.robots.map Robot.toJson))
    , ("INITS", program.setup.toJson) ]

/-- Write a program in an envelope. -/
def Program.toEnvelope (program : Program) : Json :=
  tagged envelopeTag [("value", program.toJson)]

/-- Write a program with or without an envelope. -/
def Program.toDocument (enveloped : Bool) (program : Program) : Json :=
  if enveloped then program.toEnvelope else program.toJson

end RobotCity
