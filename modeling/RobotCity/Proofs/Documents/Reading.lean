import RobotCity.Program.OfJson
import RobotCity.Proofs.Documents.Members

/-!
# Reading parts of programs

One law for each kind of part: an object with the members of the part is read as the part, if the
documents under its names are read as what it is made of.
-/

namespace RobotCity

open Json (member)

variable {place : Place} {document : Json}

theorem ValueType.lookup_token (type : ValueType) : tokens.lookup type.token = some type := by
  cases type <;> rfl

theorem Occupancy.lookup_token (occupancy : Occupancy) :
    tokens.lookup occupancy.token = some occupancy := by
  cases occupancy <;> rfl

theorem Passing.lookup_token (passing : Passing) : tokens.lookup passing.token = some passing := by
  cases passing <;> rfl

theorem MessageMode.lookup_token (mode : MessageMode) : tokens.lookup mode.token = some mode := by
  cases mode <;> rfl

theorem CornerMode.lookup_token (mode : CornerMode) : tokens.lookup mode.token = some mode := by
  cases mode <;> rfl

namespace Json.Shows

variable {given members : List (Text × Json)}

theorem expressionTag (shows : Shows given members) (tag : ExpressionTag)
    (found : member members "type" = .string tag.token) :
    findTag ExpressionTag.ofToken? given = some tag := by
  rw [findTag, tagOf, shows.member_eq, found]
  exact ExpressionTag.ofToken?_token tag

theorem statementTag (shows : Shows given members) (tag : StatementTag)
    (found : member members "type" = .string tag.token) :
    findTag StatementTag.ofToken? given = some tag := by
  rw [findTag, tagOf, shows.member_eq, found]
  exact StatementTag.ofToken?_token tag

theorem expression {value : Json} {part : Expression} (shows : Shows given members)
    (name : String) (found : member members name = value)
    (read : Expression.ofJson (place.field name) value = .ok part) :
    readExpression place given name = .ok part := by
  rw [readExpression, shows.member_eq, found, read]

end Json.Shows

/-! ## Expressions and statements -/

namespace Expression

theorem ofJson_integer {value : Int}
    (holds : document.Holds [("type", .string "LITERAL_INTEGER"), ("value", .integer value)]) :
    Expression.ofJson place document = .ok (.integer value) := by
  obtain ⟨given, rfl, shows⟩ := holds.shows (by simp)
  rw [Expression.ofJson, shows.expressionTag .integer rfl, shows.integer "value" rfl]
  rfl

theorem ofJson_boolean {value : Bool}
    (holds : document.Holds [("type", .string "LITERAL_BOOLEAN"), ("value", .boolean value)]) :
    Expression.ofJson place document = .ok (.boolean value) := by
  obtain ⟨given, rfl, shows⟩ := holds.shows (by simp)
  rw [Expression.ofJson, shows.expressionTag .boolean rfl, shows.boolean "value" rfl]
  rfl

theorem ofJson_variable {name : Text}
    (holds : document.Holds [("type", .string "VARIABLE"), ("identifier", .string name)]) :
    Expression.ofJson place document = .ok (.variable name) := by
  obtain ⟨given, rfl, shows⟩ := holds.shows (by simp)
  rw [Expression.ofJson, shows.expressionTag .variable rfl, shows.text "identifier" rfl]
  rfl

theorem ofJson_query {name : Text}
    (holds : document.Holds [("type", .string "STATE_METHOD"), ("identifier", .string name)]) :
    Expression.ofJson place document = .ok (.query name) := by
  obtain ⟨given, rfl, shows⟩ := holds.shows (by simp)
  rw [Expression.ofJson, shows.expressionTag .query rfl, shows.text "identifier" rfl]
  rfl

theorem ofJson_unary {rhs : Json} {operator : Text} {operand : Expression}
    (holds : document.Holds
      [("type", .string "UNARY_OPERATION"), ("operator", .string operator), ("rhs", rhs)])
    (read : Expression.ofJson (place.field "rhs") rhs = .ok operand) :
    Expression.ofJson place document = .ok (.unary operator operand) := by
  obtain ⟨given, rfl, shows⟩ := holds.shows (by simp)
  rw [Expression.ofJson, shows.expressionTag .unary rfl, shows.text "operator" rfl,
    shows.found "rhs" rhs rfl, read]
  rfl

theorem ofJson_binary {lhs rhs : Json} {operator : Text} {left right : Expression}
    (holds : document.Holds
      [ ("type", .string "BINARY_OPERATION"), ("operator", .string operator)
      , ("lhs", lhs), ("rhs", rhs) ])
    (left_read : Expression.ofJson (place.field "lhs") lhs = .ok left)
    (right_read : Expression.ofJson (place.field "rhs") rhs = .ok right) :
    Expression.ofJson place document = .ok (.binary operator left right) := by
  obtain ⟨given, rfl, shows⟩ := holds.shows (by simp)
  rw [Expression.ofJson, shows.expressionTag .binary rfl, shows.text "operator" rfl,
    shows.found "lhs" lhs rfl, shows.found "rhs" rhs rfl, left_read, right_read]
  rfl

/-- What is read as an expression is not empty. -/
theorem isGiven_of_read {expression : Expression}
    (read : Expression.ofJson place document = .ok expression) : document.isGiven := by
  cases document with
  | object members =>
      cases members with
      | nil =>
          rw [Expression.ofJson] at read
          cases read
      | cons first rest => rfl
  | _ =>
      rw [Expression.ofJson] at read
      · cases read
      · intro members same
        cases same

end Expression

theorem Notice.ofJson_text {content : Text}
    (holds : document.Holds [("type", .string "STRING_LITERAL"), ("value", .string content)]) :
    Notice.ofJson place document = .ok (.text content) := by
  obtain ⟨given, rfl, shows⟩ := holds.shows (by simp)
  rw [Notice.ofJson, readObject, ok_bind, tagOf, shows.found "type" (.string textTag) rfl,
    if_pos rfl, shows.text "value" rfl]
  rfl

theorem Notice.ofJson_value {expression : Expression}
    (read : Expression.ofJson place document = .ok expression) :
    Notice.ofJson place document = .ok (.value expression) := by
  cases document with
  | object members =>
      have no_text : tagOf members ≠ .string textTag := by
        intro same
        have unknown : findTag ExpressionTag.ofToken? members = none := by
          rw [findTag, same]
          rfl
        rw [Expression.ofJson, unknown] at read
        cases read
      rw [Notice.ofJson, readObject, ok_bind, if_neg no_text, read]
      rfl
  | _ =>
      rw [Expression.ofJson] at read
      · cases read
      · intro members same
        cases same

namespace Statement

theorem ofJson_assign {expression : Json} {target : Text} {value : Expression}
    (holds : document.Holds
      [("type", .string "STATEMENT_ASSIGN"), ("identifier", .string target), ("value", expression)])
    (read : Expression.ofJson (place.field "value") expression = .ok value) :
    Statement.ofJson place document = .ok (.assign target value) := by
  obtain ⟨given, rfl, shows⟩ := holds.shows (by simp)
  rw [Statement.ofJson, shows.statementTag .assign rfl, shows.text "identifier" rfl,
    shows.expression "value" rfl read]
  rfl

theorem ofJson_block {items : List Json} {body : List Statement}
    (holds : document.Holds [("type", .string "STATEMENT_BLOCK"), ("body", .array items)])
    (read : bodyOfJson (place.field "body") 0 items = .ok body) :
    Statement.ofJson place document = .ok (.block body) := by
  obtain ⟨given, rfl, shows⟩ := holds.shows (by simp)
  have items_read : readList place given "body" = .ok items := shows.list "body" rfl
  rw [Statement.ofJson, shows.statementTag .block rfl]
  dsimp only
  -- The list of items is matched with a proof, so that it cannot be rewritten in place.
  split
  · rename_i failed
    rw [items_read] at failed
    cases failed
  · rename_i found
    rw [items_read] at found
    cases found
    rw [read]
    rfl

theorem ofJson_ifThen {test part : Json} {condition : Expression} {body : Statement}
    (holds : document.Holds [("type", .string "IF"), ("condition", test), ("body", part)])
    (condition_read : Expression.ofJson (place.field "condition") test = .ok condition)
    (body_read : Statement.ofJson (place.field "body") part = .ok body) :
    Statement.ofJson place document = .ok (.ifThen condition body) := by
  obtain ⟨given, rfl, shows⟩ := holds.shows (by simp)
  rw [Statement.ofJson, shows.statementTag .branch rfl,
    shows.expression "condition" rfl condition_read, shows.found "body" part rfl, body_read,
    shows.found "else_body" .null rfl]
  rfl

/-- What is read as a statement is not empty. -/
theorem isGiven_of_read {statement : Statement}
    (read : Statement.ofJson place document = .ok statement) : document.isGiven := by
  cases document with
  | object members =>
      cases members with
      | nil =>
          rw [Statement.ofJson] at read
          cases read
      | cons first rest => rfl
  | _ =>
      rw [Statement.ofJson] at read
      · cases read
      · intro members same
        cases same

theorem ofJson_ifElse {test part other : Json} {condition : Expression} {body otherwise : Statement}
    (holds : document.Holds
      [("type", .string "IF"), ("condition", test), ("body", part), ("else_body", other)])
    (condition_read : Expression.ofJson (place.field "condition") test = .ok condition)
    (body_read : Statement.ofJson (place.field "body") part = .ok body)
    (otherwise_read : Statement.ofJson (place.field "else_body") other = .ok otherwise) :
    Statement.ofJson place document = .ok (.ifElse condition body otherwise) := by
  obtain ⟨given, rfl, shows⟩ := holds.shows (by simp)
  rw [Statement.ofJson, shows.statementTag .branch rfl,
    shows.expression "condition" rfl condition_read, shows.found "body" part rfl, body_read,
    shows.found "else_body" other rfl, otherwise_read, ok_bind, ok_bind,
    if_pos (isGiven_of_read otherwise_read)]
  rfl

theorem ofJson_times {times part : Json} {count : Expression} {body : Statement}
    (holds : document.Holds [("type", .string "FOR"), ("condition", times), ("body", part)])
    (count_read : Expression.ofJson (place.field "condition") times = .ok count)
    (body_read : Statement.ofJson (place.field "body") part = .ok body) :
    Statement.ofJson place document = .ok (.times count body) := by
  obtain ⟨given, rfl, shows⟩ := holds.shows (by simp)
  rw [Statement.ofJson, shows.statementTag .times rfl,
    shows.expression "condition" rfl count_read, shows.found "body" part rfl, body_read]
  rfl

theorem ofJson_loop {test part : Json} {condition : Expression} {body : Statement}
    (holds : document.Holds [("type", .string "WHILE"), ("condition", test), ("body", part)])
    (condition_read : Expression.ofJson (place.field "condition") test = .ok condition)
    (body_read : Statement.ofJson (place.field "body") part = .ok body) :
    Statement.ofJson place document = .ok (.loop condition body) := by
  obtain ⟨given, rfl, shows⟩ := holds.shows (by simp)
  rw [Statement.ofJson, shows.statementTag .loop rfl,
    shows.expression "condition" rfl condition_read, shows.found "body" part rfl, body_read]
  rfl

theorem ofJson_inform {first : Json} {notice : Notice}
    (holds : document.Holds [("type", .string "INFORM"), ("arg1", first), ("arg2", .object [])])
    (notice_read : Notice.ofJson (place.field "arg1") first = .ok notice) :
    Statement.ofJson place document = .ok (.inform notice none) := by
  obtain ⟨given, rfl, shows⟩ := holds.shows (by simp)
  rw [Statement.ofJson, shows.statementTag .inform rfl, shows.found "arg1" first rfl,
    notice_read, readOptionalExpression, shows.found "arg2" (.object []) rfl]
  rfl

theorem ofJson_informValue {first second : Json} {notice : Notice} {value : Expression}
    (holds : document.Holds [("type", .string "INFORM"), ("arg1", first), ("arg2", second)])
    (notice_read : Notice.ofJson (place.field "arg1") first = .ok notice)
    (value_read : Expression.ofJson (place.field "arg2") second = .ok value) :
    Statement.ofJson place document = .ok (.inform notice (some value)) := by
  obtain ⟨given, rfl, shows⟩ := holds.shows (by simp)
  rw [Statement.ofJson, shows.statementTag .inform rfl, shows.found "arg1" first rfl,
    notice_read, readOptionalExpression, shows.expression "arg2" rfl value_read,
    shows.found "arg2" second rfl, if_pos (Expression.isGiven_of_read value_read)]
  rfl

theorem ofJson_moveTo {first second : Json} {x y : Expression}
    (holds : document.Holds [("type", .string "CHANGE_POSITION"), ("x", first), ("y", second)])
    (x_read : Expression.ofJson (place.field "x") first = .ok x)
    (y_read : Expression.ofJson (place.field "y") second = .ok y) :
    Statement.ofJson place document = .ok (.moveTo x y) := by
  obtain ⟨given, rfl, shows⟩ := holds.shows (by simp)
  rw [Statement.ofJson, shows.statementTag .moveTo rfl, shows.expression "x" rfl x_read,
    shows.expression "y" rfl y_read]
  rfl

theorem ofJson_exchange {sent : Json} {mode : MessageMode} {value : Expression} {recipient : Text}
    (holds : document.Holds
      [ ("type", .string "MESSAGE"), ("mode", .string mode.token), ("value", sent)
      , ("who", .string recipient) ])
    (value_read : Expression.ofJson (place.field "value") sent = .ok value) :
    Statement.ofJson place document = .ok (.exchange mode value recipient) := by
  obtain ⟨given, rfl, shows⟩ := holds.shows (by simp)
  rw [Statement.ofJson, shows.statementTag .exchange rfl,
    shows.token "mode" rfl mode.lookup_token, shows.expression "value" rfl value_read,
    shows.text "who" rfl]
  rfl

theorem ofJson_corner {first second : Json} {mode : CornerMode} {x y : Expression}
    (holds : document.Holds
      [ ("type", .string "CONTROL_CORNER"), ("mode", .string mode.token), ("x", first)
      , ("y", second) ])
    (x_read : Expression.ofJson (place.field "x") first = .ok x)
    (y_read : Expression.ofJson (place.field "y") second = .ok y) :
    Statement.ofJson place document = .ok (.corner mode x y) := by
  obtain ⟨given, rfl, shows⟩ := holds.shows (by simp)
  rw [Statement.ofJson, shows.statementTag .corner rfl, shows.token "mode" rfl mode.lookup_token,
    shows.expression "x" rfl x_read, shows.expression "y" rfl y_read]
  rfl

theorem ofJson_call {procedure : Text} {items : List Json} {arguments : List Expression}
    (holds : document.Holds
      [ ("type", .string "CALL_PROCEDURE"), ("identifier", .string procedure)
      , ("parameters", .array items) ])
    (read : readEach Expression.ofJson (place.field "parameters") 0 items = .ok arguments) :
    Statement.ofJson place document = .ok (.call procedure arguments) := by
  obtain ⟨given, rfl, shows⟩ := holds.shows (by simp)
  rw [Statement.ofJson, shows.statementTag .call rfl]
  dsimp only
  rw [shows.text "identifier" rfl, ok_bind, shows.optionalList "parameters" rfl, ok_bind, read]
  rfl

theorem bodyOfJson_eq_readEach (place : Place) (index : Nat) (items : List Json) :
    bodyOfJson place index items = readEach Statement.ofJson place index items := by
  induction items generalizing index with
  | nil =>
      rw [bodyOfJson]
      rfl
  | cons item rest ih =>
      rw [bodyOfJson, readEach]
      simp only [ih]

end Statement

/-! ## Declarations and programs -/

theorem Variable.ofJson_of_holds {declared : Variable}
    (holds : document.Holds
      [("identifier", .string declared.name), ("type_value", .string declared.type.token)]) :
    Variable.ofJson place document = .ok declared := by
  obtain ⟨given, rfl, shows⟩ := holds.shows (by simp)
  rw [Variable.ofJson, readObject, ok_bind, shows.text "identifier" rfl,
    shows.token "type_value" rfl declared.type.lookup_token]
  rfl

theorem Parameter.ofJson_of_holds {parameter : Parameter}
    (holds : document.Holds
      [ ("type_parameter", .string parameter.passing.token)
      , ("identifier", .string parameter.name)
      , ("type_value", .string parameter.type.token) ]) :
    Parameter.ofJson place document = .ok parameter := by
  obtain ⟨given, rfl, shows⟩ := holds.shows (by simp)
  rw [Parameter.ofJson, readObject, ok_bind,
    shows.token "type_parameter" rfl parameter.passing.lookup_token, ok_bind,
    shows.text "identifier" rfl, shows.token "type_value" rfl parameter.type.lookup_token]
  rfl

theorem Json.Shows.variables {given members : List (Text × Json)} {items : List Json}
    {locals : List Variable} (shows : Shows given members)
    (found : member members "local_variables" = .array items)
    (read : readEach Variable.ofJson (place.field "local_variables") 0 items = .ok locals) :
    readVariables place given = .ok locals := by
  rw [readVariables, shows.optionalList "local_variables" found, ok_bind, read]

theorem Json.Shows.body {given members : List (Text × Json)} {items : List Json}
    {body : List Statement} (shows : Shows given members)
    (found : member members "body" = .array items)
    (read : readEach Statement.ofJson (place.field "body") 0 items = .ok body) :
    readBody place given = .ok body := by
  rw [readBody, shows.list "body" found, ok_bind, Statement.bodyOfJson_eq_readEach, read]

theorem Procedure.ofJson_of_holds {parameters locals body : List Json} {procedure : Procedure}
    (holds : document.Holds
      [ ("identifier", .string procedure.name), ("parameters", .array parameters)
      , ("local_variables", .array locals), ("body", .array body) ])
    (parameters_read : readEach Parameter.ofJson (place.field "parameters") 0 parameters =
      .ok procedure.parameters)
    (locals_read : readEach Variable.ofJson (place.field "local_variables") 0 locals =
      .ok procedure.locals)
    (body_read : readEach Statement.ofJson (place.field "body") 0 body = .ok procedure.body) :
    Procedure.ofJson place document = .ok procedure := by
  obtain ⟨given, rfl, shows⟩ := holds.shows (by simp)
  rw [Procedure.ofJson, readObject, ok_bind, shows.optionalList "parameters" rfl, ok_bind,
    parameters_read, ok_bind, shows.text "identifier" rfl, ok_bind, shows.variables rfl locals_read,
    ok_bind, shows.body rfl body_read]
  rfl

theorem RobotType.ofJson_of_holds {locals body : List Json} {robotType : RobotType}
    (holds : document.Holds
      [ ("identifier", .string robotType.name), ("local_variables", .array locals)
      , ("body", .array body) ])
    (locals_read : readEach Variable.ofJson (place.field "local_variables") 0 locals =
      .ok robotType.locals)
    (body_read : readEach Statement.ofJson (place.field "body") 0 body = .ok robotType.body) :
    RobotType.ofJson place document = .ok robotType := by
  obtain ⟨given, rfl, shows⟩ := holds.shows (by simp)
  rw [RobotType.ofJson, readObject, ok_bind, shows.text "identifier" rfl, ok_bind,
    shows.variables rfl locals_read, ok_bind, shows.body rfl body_read]
  rfl

theorem Point.ofJson_of_holds {point : Point}
    (holds : document.Holds [("x", .integer point.x), ("y", .integer point.y)]) :
    Point.ofJson place document = .ok point := by
  obtain ⟨given, rfl, shows⟩ := holds.shows (by simp)
  rw [Point.ofJson, readObject, ok_bind, readPoint, shows.integer "x" rfl,
    shows.integer "y" rfl]
  rfl

theorem Area.ofJson_of_holds {low high : Json} {area : Area}
    (holds : document.Holds
      [ ("identifier", .string area.name), ("type", .string area.occupancy.token)
      , ("a", low), ("b", high) ])
    (low_read : Point.ofJson (place.field "a") low = .ok area.extent.low)
    (high_read : Point.ofJson (place.field "b") high = .ok area.extent.high) :
    Area.ofJson place document = .ok area := by
  obtain ⟨given, rfl, shows⟩ := holds.shows (by simp)
  rw [Area.ofJson, readObject, ok_bind, shows.text "identifier" rfl,
    shows.token "type" rfl area.occupancy.lookup_token, shows.found "a" low rfl,
    shows.found "b" high rfl, low_read, high_read]
  rfl

theorem Robot.ofJson_of_holds {robot : Robot}
    (holds : document.Holds [("identifier", .string robot.name), ("type", .string robot.type)]) :
    Robot.ofJson place document = .ok robot := by
  obtain ⟨given, rfl, shows⟩ := holds.shows (by simp)
  rw [Robot.ofJson, readObject, ok_bind, shows.text "identifier" rfl, shows.text "type" rfl]
  rfl

theorem Grant.ofJson_of_holds {grant : Grant}
    (holds : document.Holds [("identifier", .string grant.robot), ("type", .string grant.area)]) :
    Grant.ofJson place document = .ok grant := by
  obtain ⟨given, rfl, shows⟩ := holds.shows (by simp)
  rw [Grant.ofJson, readObject, ok_bind, shows.text "identifier" rfl, shows.text "type" rfl]
  rfl

theorem Supply.ofJson_of_holds {supply : Supply}
    (holds : document.Holds
      [ ("identifier", .string supply.robot), ("type", .array (supply.kinds.map .string))
      , ("value", .integer supply.quantity) ]) :
    Supply.ofJson place document = .ok supply := by
  obtain ⟨given, rfl, shows⟩ := holds.shows (by simp)
  rw [Supply.ofJson, readObject, ok_bind, shows.texts "type" rfl, shows.text "identifier" rfl,
    shows.integer "value" rfl]
  rfl

theorem Origin.ofJson_of_holds {origin : Origin}
    (holds : document.Holds
      [ ("identifier", .string origin.robot), ("x", .integer origin.point.x)
      , ("y", .integer origin.point.y) ]) :
    Origin.ofJson place document = .ok origin := by
  obtain ⟨given, rfl, shows⟩ := holds.shows (by simp)
  rw [Origin.ofJson, readObject, ok_bind, shows.text "identifier" rfl, readPoint,
    shows.integer "x" rfl, shows.integer "y" rfl]
  rfl

theorem Setup.ofJson_of_holds {grants supplies origins : List Json} {setup : Setup}
    (holds : document.Holds
      [ ("assign_areas", .array grants), ("assign_items", .array supplies)
      , ("assign_origins", .array origins) ])
    (grants_read : readEach Grant.ofJson (Setup.place.field "assign_areas") 0 grants =
      .ok setup.grants)
    (supplies_read : readEach Supply.ofJson (Setup.place.field "assign_items") 0 supplies =
      .ok setup.supplies)
    (origins_read : readEach Origin.ofJson (Setup.place.field "assign_origins") 0 origins =
      .ok setup.origins) :
    Setup.ofJson place document = .ok setup := by
  obtain ⟨given, rfl, shows⟩ := holds.shows (by simp)
  rw [Setup.ofJson, readObject, ok_bind, Setup.ofMembers, shows.optionalList "assign_areas" rfl,
    ok_bind, grants_read, ok_bind, shows.optionalList "assign_items" rfl, ok_bind, supplies_read,
    ok_bind, shows.optionalList "assign_origins" rfl, ok_bind, origins_read]
  rfl

theorem Json.Shows.declarations {α : Type} {read : Place → Json → Except ShapeError α}
    {given members : List (Text × Json)} {items : List Json} {parts : List α}
    (shows : Shows given members) (name : String) (found : member members name = .array items)
    (items_read : readEach read (Place.program.field name) 0 items = .ok parts) :
    readDeclarations read given name = .ok parts := by
  rw [readDeclarations, shows.optionalList name found, ok_bind, items_read]

theorem nameOf_of_shows {given members : List (Text × Json)} {label name : Json}
    (shows : Json.Shows given members) (found : member members "NAME" = label)
    (labelled : label.Holds [("type", .string "NAME"), ("identifier", name)])
    (named : name = .string .empty ∨ name.isGiven) : nameOf given = name := by
  obtain ⟨entries, rfl, label_shows⟩ := labelled.shows (by simp)
  rw [nameOf, shows.member_eq, found]
  dsimp only
  rw [label_shows.found "identifier" name rfl]
  split
  · rfl
  · rename_i not_given
    exact (named.resolve_right not_given).symm

theorem unwrapped_of_holds {program : Json}
    (holds : document.Holds [("type", .string "PROGRAM"), ("value", program)]) :
    unwrapped document = program := by
  obtain ⟨given, rfl, shows⟩ := holds.shows (by simp)
  rw [unwrapped, tagOf, shows.found "type" (.string envelopeTag) rfl, if_pos rfl, shows]
  rfl

theorem Program.ofJson_of_holds {label setup : Json} {procedures areas robotTypes robots : List Json}
    {program : Program}
    (holds : (unwrapped document).Holds
      [ ("NAME", label), ("PROCEDURES", .array procedures), ("AREAS", .array areas)
      , ("ROBOT_TYPES", .array robotTypes), ("INSTANCES", .array robots), ("INITS", setup) ])
    (labelled : label.Holds [("type", .string "NAME"), ("identifier", program.name)])
    (named : program.name = .string .empty ∨ program.name.isGiven)
    (procedures_read : readEach Procedure.ofJson (Place.program.field "PROCEDURES") 0 procedures =
      .ok program.procedures)
    (areas_read : readEach Area.ofJson (Place.program.field "AREAS") 0 areas = .ok program.areas)
    (robotTypes_read : readEach RobotType.ofJson (Place.program.field "ROBOT_TYPES") 0 robotTypes =
      .ok program.robotTypes)
    (robots_read : readEach Robot.ofJson (Place.program.field "INSTANCES") 0 robots =
      .ok program.robots)
    (setup_read : Setup.ofJson Setup.place setup = .ok program.setup) :
    Program.ofJson document = .ok program := by
  obtain ⟨given, same, shows⟩ := holds.shows (by simp)
  have setup_there : Json.member? given "INITS" = some setup := shows "INITS"
  rw [Program.ofJson, same, readObject, ok_bind,
    shows.declarations "PROCEDURES" rfl procedures_read, ok_bind,
    shows.declarations "AREAS" rfl areas_read, ok_bind,
    shows.declarations "ROBOT_TYPES" rfl robotTypes_read, ok_bind,
    shows.declarations "INSTANCES" rfl robots_read, ok_bind, setup_there, Option.getD_some,
    setup_read, ok_bind, nameOf_of_shows shows rfl labelled named]
  rfl

end RobotCity
