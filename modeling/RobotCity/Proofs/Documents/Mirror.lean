import RobotCity.Program.Node
import RobotCity.Proofs.Documents.Reading
import RobotCity.Proofs.Documents.Shapes

/-!
# Programs and their documents

What is written for a part of a program is read as this part, and what is read from a canonical
document is written as this document.
-/

namespace RobotCity

open Json (holds_object)

variable {document : Json}

theorem ValueType.exists_token {word : Text} (is_type : Json.IsType word) :
    ∃ type : ValueType, type.token = word := by
  rcases List.mem_pair.mp is_type with rfl | rfl
  · exact ⟨.numeric, rfl⟩
  · exact ⟨.boolean, rfl⟩

theorem Passing.exists_token {word : Text} (member : word ∈ (["E", "ES"] : List Text)) :
    ∃ passing : Passing, passing.token = word := by
  rcases List.mem_pair.mp member with rfl | rfl
  · exact ⟨.byValue, rfl⟩
  · exact ⟨.byReference, rfl⟩

theorem MessageMode.exists_token {word : Text} (member : word ∈ (["SEND", "RECEIVE"] : List Text)) :
    ∃ mode : MessageMode, mode.token = word := by
  rcases List.mem_pair.mp member with rfl | rfl
  · exact ⟨.send, rfl⟩
  · exact ⟨.receive, rfl⟩

theorem CornerMode.exists_token {word : Text} (member : word ∈ (["BLOCK", "FREE"] : List Text)) :
    ∃ mode : CornerMode, mode.token = word := by
  rcases List.mem_pair.mp member with rfl | rfl
  · exact ⟨.block, rfl⟩
  · exact ⟨.free, rfl⟩

theorem Occupancy.exists_token {word : Text}
    (member : word ∈ (["SHARED", "SEMI_PRIVATE", "PRIVATE"] : List Text)) :
    ∃ occupancy : Occupancy, occupancy.token = word := by
  rcases List.mem_cons.mp member with rfl | other
  · exact ⟨.shared, rfl⟩
  · rcases List.mem_pair.mp other with rfl | rfl
    · exact ⟨.semiPrivate, rfl⟩
    · exact ⟨.exclusive, rfl⟩

/-! ## Expressions and statements -/

namespace Expression

/-- A written expression is read as itself. -/
theorem ofJson_toJson (place : Place) (expression : Expression) :
    Expression.ofJson place expression.toJson = .ok expression := by
  induction expression generalizing place with
  | integer value => exact ofJson_integer (holds_object _)
  | boolean value => exact ofJson_boolean (holds_object _)
  | «variable» name => exact ofJson_variable (holds_object _)
  | query name => exact ofJson_query (holds_object _)
  | unary operator operand ih => exact ofJson_unary (holds_object _) (ih _)
  | binary operator left right left_ih right_ih =>
      exact ofJson_binary (holds_object _) (left_ih _) (right_ih _)

theorem mirrors (shape : document.IsExpression) :
    Mirrors Expression.ofJson Expression.toJson document := by
  induction shape with
  | integer holds =>
      exact ⟨.integer _, fun _ => ofJson_integer holds,
        holds.alike rfl (.cons .same (.cons .same .nil))⟩
  | boolean holds =>
      exact ⟨.boolean _, fun _ => ofJson_boolean holds,
        holds.alike rfl (.cons .same (.cons .same .nil))⟩
  | «variable» holds =>
      exact ⟨.variable _, fun _ => ofJson_variable holds,
        holds.alike rfl (.cons .same (.cons .same .nil))⟩
  | query holds =>
      exact ⟨.query _, fun _ => ofJson_query holds,
        holds.alike rfl (.cons .same (.cons .same .nil))⟩
  | unary _ holds ih =>
      obtain ⟨operand, read, alike⟩ := ih
      exact ⟨.unary _ operand, fun _ => ofJson_unary holds (read _),
        holds.alike rfl (.cons .same (.cons .same (.cons alike .nil)))⟩
  | binary _ _ holds left_ih right_ih =>
      obtain ⟨left, left_read, left_alike⟩ := left_ih
      obtain ⟨right, right_read, right_alike⟩ := right_ih
      exact ⟨.binary _ left right, fun _ => ofJson_binary holds (left_read _) (right_read _),
        holds.alike rfl (.cons .same (.cons .same (.cons left_alike (.cons right_alike .nil))))⟩

end Expression

theorem Notice.ofJson_toJson (place : Place) (notice : Notice) :
    Notice.ofJson place notice.toJson = .ok notice := by
  cases notice with
  | text content => exact ofJson_text (holds_object _)
  | value expression => exact ofJson_value (expression.ofJson_toJson place)

theorem Notice.mirrors (shape : document.IsNotice) :
    Mirrors Notice.ofJson Notice.toJson document := by
  cases shape with
  | text holds =>
      exact ⟨.text _, fun _ => ofJson_text holds, holds.alike rfl (.cons .same (.cons .same .nil))⟩
  | value shape =>
      obtain ⟨expression, read, alike⟩ := Expression.mirrors shape
      exact ⟨.value expression, fun place => ofJson_value (read place), alike⟩

namespace Statement

mutual

/-- A written statement is read as itself. -/
theorem ofJson_toJson (place : Place) (statement : Statement) :
    Statement.ofJson place statement.toJson = .ok statement := by
  cases statement with
  | assign target value => exact ofJson_assign (holds_object _) (value.ofJson_toJson _)
  | block body => exact ofJson_block (holds_object _) (bodyOfJson_bodyToJson _ 0 body)
  | ifThen condition body =>
      exact ofJson_ifThen (holds_object _) (condition.ofJson_toJson _) (ofJson_toJson _ body)
  | ifElse condition body otherwise =>
      exact ofJson_ifElse (holds_object _) (condition.ofJson_toJson _) (ofJson_toJson _ body)
        (ofJson_toJson _ otherwise)
  | times count body =>
      exact ofJson_times (holds_object _) (count.ofJson_toJson _) (ofJson_toJson _ body)
  | loop condition body =>
      exact ofJson_loop (holds_object _) (condition.ofJson_toJson _) (ofJson_toJson _ body)
  | inform notice value =>
      cases value with
      | none => exact ofJson_inform (holds_object _) (notice.ofJson_toJson _)
      | some value =>
          exact ofJson_informValue (holds_object _) (notice.ofJson_toJson _)
            (value.ofJson_toJson _)
  | moveTo x y => exact ofJson_moveTo (holds_object _) (x.ofJson_toJson _) (y.ofJson_toJson _)
  | exchange mode value recipient =>
      exact ofJson_exchange (holds_object _) (value.ofJson_toJson _)
  | corner mode x y =>
      exact ofJson_corner (holds_object _) (x.ofJson_toJson _) (y.ofJson_toJson _)
  | call procedure arguments =>
      exact ofJson_call (holds_object _)
        (readEach_map (fun argument _ place => argument.ofJson_toJson place) _ 0)

/-- A written body is read as itself. -/
theorem bodyOfJson_bodyToJson (place : Place) (index : Nat) (body : List Statement) :
    bodyOfJson place index (bodyToJson body) = .ok body := by
  cases body with
  | nil =>
      rw [bodyToJson, bodyOfJson]
  | cons first rest =>
      rw [bodyToJson, bodyOfJson, ofJson_toJson _ first, ok_bind,
        bodyOfJson_bodyToJson _ _ rest]
      rfl

end

theorem bodyToJson_eq_map (body : List Statement) : bodyToJson body = body.map Statement.toJson := by
  induction body with
  | nil => rfl
  | cons first rest ih => rw [bodyToJson, List.map_cons, ih]

theorem mirrors (shape : document.IsStatement) :
    Mirrors Statement.ofJson Statement.toJson document := by
  induction shape with
  | assign value_shape holds =>
      obtain ⟨value, read, alike⟩ := Expression.mirrors value_shape
      exact ⟨.assign _ value, fun _ => ofJson_assign holds (read _),
        holds.alike rfl (.cons .same (.cons .same (.cons alike .nil)))⟩
  | block _ holds ih =>
      obtain ⟨body, read, alike⟩ := mirrors_each ih
      rw [← bodyToJson_eq_map] at alike
      refine ⟨.block body, fun place => ofJson_block holds ?_,
        holds.alike rfl (.cons .same (.cons alike .nil))⟩
      rw [bodyOfJson_eq_readEach, read]
  | ifThen condition_shape _ holds body_ih =>
      obtain ⟨condition, condition_read, condition_alike⟩ := Expression.mirrors condition_shape
      obtain ⟨body, body_read, body_alike⟩ := body_ih
      exact ⟨.ifThen condition body, fun _ => ofJson_ifThen holds (condition_read _) (body_read _),
        holds.alike rfl (.cons .same (.cons condition_alike (.cons body_alike .nil)))⟩
  | ifElse condition_shape _ _ holds body_ih otherwise_ih =>
      obtain ⟨condition, condition_read, condition_alike⟩ := Expression.mirrors condition_shape
      obtain ⟨body, body_read, body_alike⟩ := body_ih
      obtain ⟨otherwise, otherwise_read, otherwise_alike⟩ := otherwise_ih
      exact ⟨.ifElse condition body otherwise,
        fun _ => ofJson_ifElse holds (condition_read _) (body_read _) (otherwise_read _),
        holds.alike rfl
          (.cons .same (.cons condition_alike (.cons body_alike (.cons otherwise_alike .nil))))⟩
  | times count_shape _ holds body_ih =>
      obtain ⟨count, count_read, count_alike⟩ := Expression.mirrors count_shape
      obtain ⟨body, body_read, body_alike⟩ := body_ih
      exact ⟨.times count body, fun _ => ofJson_times holds (count_read _) (body_read _),
        holds.alike rfl (.cons .same (.cons count_alike (.cons body_alike .nil)))⟩
  | loop condition_shape _ holds body_ih =>
      obtain ⟨condition, condition_read, condition_alike⟩ := Expression.mirrors condition_shape
      obtain ⟨body, body_read, body_alike⟩ := body_ih
      exact ⟨.loop condition body, fun _ => ofJson_loop holds (condition_read _) (body_read _),
        holds.alike rfl (.cons .same (.cons condition_alike (.cons body_alike .nil)))⟩
  | inform notice_shape holds =>
      obtain ⟨notice, read, alike⟩ := Notice.mirrors notice_shape
      exact ⟨.inform notice none, fun _ => ofJson_inform holds (read _),
        holds.alike rfl (.cons .same (.cons alike (.cons .same .nil)))⟩
  | informValue notice_shape value_shape holds =>
      obtain ⟨notice, notice_read, notice_alike⟩ := Notice.mirrors notice_shape
      obtain ⟨value, value_read, value_alike⟩ := Expression.mirrors value_shape
      exact ⟨.inform notice (some value),
        fun _ => ofJson_informValue holds (notice_read _) (value_read _),
        holds.alike rfl (.cons .same (.cons notice_alike (.cons value_alike .nil)))⟩
  | moveTo x_shape y_shape holds =>
      obtain ⟨x, x_read, x_alike⟩ := Expression.mirrors x_shape
      obtain ⟨y, y_read, y_alike⟩ := Expression.mirrors y_shape
      exact ⟨.moveTo x y, fun _ => ofJson_moveTo holds (x_read _) (y_read _),
        holds.alike rfl (.cons .same (.cons x_alike (.cons y_alike .nil)))⟩
  | exchange mode_known value_shape holds =>
      obtain ⟨mode, rfl⟩ := MessageMode.exists_token mode_known
      obtain ⟨value, read, alike⟩ := Expression.mirrors value_shape
      exact ⟨.exchange mode value _, fun _ => ofJson_exchange holds (read _),
        holds.alike rfl (.cons .same (.cons .same (.cons alike (.cons .same .nil))))⟩
  | corner mode_known x_shape y_shape holds =>
      obtain ⟨mode, rfl⟩ := CornerMode.exists_token mode_known
      obtain ⟨x, x_read, x_alike⟩ := Expression.mirrors x_shape
      obtain ⟨y, y_read, y_alike⟩ := Expression.mirrors y_shape
      exact ⟨.corner mode x y, fun _ => ofJson_corner holds (x_read _) (y_read _),
        holds.alike rfl (.cons .same (.cons .same (.cons x_alike (.cons y_alike .nil))))⟩
  | call arguments_shape holds =>
      obtain ⟨arguments, read, alike⟩ := mirrors_each fun argument member =>
        Expression.mirrors (arguments_shape argument member)
      exact ⟨.call _ arguments, fun _ => ofJson_call holds (read _ 0),
        holds.alike rfl (.cons .same (.cons .same (.cons alike .nil)))⟩

end Statement

/-! ## Declarations and programs -/

theorem Variable.ofJson_toJson (place : Place) (declared : Variable) :
    Variable.ofJson place declared.toJson = .ok declared :=
  ofJson_of_holds (holds_object _)

theorem Variable.mirrors (shape : document.IsVariable) :
    Mirrors Variable.ofJson Variable.toJson document := by
  obtain ⟨name, word, is_type, holds⟩ := shape
  obtain ⟨type, rfl⟩ := ValueType.exists_token is_type
  exact ⟨⟨name, type⟩, fun _ => ofJson_of_holds holds,
    holds.alike rfl (.cons .same (.cons .same .nil))⟩

theorem Parameter.ofJson_toJson (place : Place) (parameter : Parameter) :
    Parameter.ofJson place parameter.toJson = .ok parameter :=
  ofJson_of_holds (holds_object _)

theorem Parameter.mirrors (shape : document.IsParameter) :
    Mirrors Parameter.ofJson Parameter.toJson document := by
  obtain ⟨mode, name, word, passing_known, is_type, holds⟩ := shape
  obtain ⟨passing, rfl⟩ := Passing.exists_token passing_known
  obtain ⟨type, rfl⟩ := ValueType.exists_token is_type
  exact ⟨⟨passing, name, type⟩, fun _ => ofJson_of_holds holds,
    holds.alike rfl (.cons .same (.cons .same (.cons .same .nil)))⟩

theorem Statement.readEach_bodyToJson (place : Place) (body : List Statement) :
    readEach Statement.ofJson place 0 (bodyToJson body) = .ok body :=
  (bodyOfJson_eq_readEach place 0 _).symm.trans (bodyOfJson_bodyToJson place 0 body)

/-- The documents of the statements of a body are read as a body that is written as they are. -/
theorem Statement.mirrors_body {items : List Json} (shapes : ∀ item ∈ items, item.IsStatement) :
    ∃ body, (∀ place index, readEach Statement.ofJson place index items = .ok body) ∧
      (Json.array (bodyToJson body)).Alike (.array items) := by
  obtain ⟨body, read, alike⟩ := mirrors_each fun item member =>
    Statement.mirrors (shapes item member)
  exact ⟨body, read, bodyToJson_eq_map body ▸ alike⟩

theorem Procedure.ofJson_toJson (place : Place) (procedure : Procedure) :
    Procedure.ofJson place procedure.toJson = .ok procedure :=
  ofJson_of_holds (holds_object _)
    (readEach_map (fun parameter _ place => parameter.ofJson_toJson place) _ 0)
    (readEach_map (fun declared _ place => declared.ofJson_toJson place) _ 0)
    (Statement.readEach_bodyToJson _ _)

theorem Procedure.mirrors (shape : document.IsProcedure) :
    Mirrors Procedure.ofJson Procedure.toJson document := by
  obtain ⟨name, _, _, _, parameters_shape, locals_shape, body_shape, holds⟩ := shape
  obtain ⟨parameters, parameters_read, parameters_alike⟩ := mirrors_each fun item member =>
    Parameter.mirrors (parameters_shape item member)
  obtain ⟨locals, locals_read, locals_alike⟩ := mirrors_each fun item member =>
    Variable.mirrors (locals_shape item member)
  obtain ⟨body, body_read, body_alike⟩ := Statement.mirrors_body body_shape
  exact ⟨⟨name, parameters, locals, body⟩,
    fun _ => ofJson_of_holds holds (parameters_read _ 0) (locals_read _ 0) (body_read _ 0),
    holds.alike rfl
      (.cons .same (.cons parameters_alike (.cons locals_alike (.cons body_alike .nil))))⟩

theorem RobotType.ofJson_toJson (place : Place) (robotType : RobotType) :
    RobotType.ofJson place robotType.toJson = .ok robotType :=
  ofJson_of_holds (holds_object _)
    (readEach_map (fun declared _ place => declared.ofJson_toJson place) _ 0)
    (Statement.readEach_bodyToJson _ _)

theorem RobotType.mirrors (shape : document.IsRobotType) :
    Mirrors RobotType.ofJson RobotType.toJson document := by
  obtain ⟨name, _, _, locals_shape, body_shape, holds⟩ := shape
  obtain ⟨locals, locals_read, locals_alike⟩ := mirrors_each fun item member =>
    Variable.mirrors (locals_shape item member)
  obtain ⟨body, body_read, body_alike⟩ := Statement.mirrors_body body_shape
  exact ⟨⟨name, locals, body⟩,
    fun _ => ofJson_of_holds holds (locals_read _ 0) (body_read _ 0),
    holds.alike rfl (.cons .same (.cons locals_alike (.cons body_alike .nil)))⟩

theorem Point.ofJson_toJson (place : Place) (point : Point) :
    Point.ofJson place point.toJson = .ok point :=
  ofJson_of_holds (holds_object _)

theorem Point.mirrors (shape : document.IsPoint) :
    Mirrors Point.ofJson Point.toJson document := by
  obtain ⟨x, y, holds⟩ := shape
  exact ⟨⟨x, y⟩, fun _ => ofJson_of_holds holds, holds.alike rfl (.cons .same (.cons .same .nil))⟩

theorem Area.ofJson_toJson (place : Place) (area : Area) :
    Area.ofJson place area.toJson = .ok area :=
  ofJson_of_holds (holds_object _) (Point.ofJson_toJson _ _) (Point.ofJson_toJson _ _)

theorem Area.mirrors (shape : document.IsArea) : Mirrors Area.ofJson Area.toJson document := by
  obtain ⟨name, _, _, _, occupancy_known, low_shape, high_shape, holds⟩ := shape
  obtain ⟨occupancy, rfl⟩ := Occupancy.exists_token occupancy_known
  obtain ⟨low, low_read, low_alike⟩ := Point.mirrors low_shape
  obtain ⟨high, high_read, high_alike⟩ := Point.mirrors high_shape
  exact ⟨⟨name, occupancy, ⟨low, high⟩⟩,
    fun _ => ofJson_of_holds holds (low_read _) (high_read _),
    holds.alike rfl (.cons .same (.cons .same (.cons low_alike (.cons high_alike .nil))))⟩

theorem Robot.ofJson_toJson (place : Place) (robot : Robot) :
    Robot.ofJson place robot.toJson = .ok robot :=
  ofJson_of_holds (holds_object _)

theorem Robot.mirrors (shape : document.IsRobot) : Mirrors Robot.ofJson Robot.toJson document := by
  obtain ⟨name, type, holds⟩ := shape
  exact ⟨⟨name, type⟩, fun _ => ofJson_of_holds holds,
    holds.alike rfl (.cons .same (.cons .same .nil))⟩

theorem Grant.ofJson_toJson (place : Place) (grant : Grant) :
    Grant.ofJson place grant.toJson = .ok grant :=
  ofJson_of_holds (holds_object _)

theorem Grant.mirrors (shape : document.IsGrant) : Mirrors Grant.ofJson Grant.toJson document := by
  obtain ⟨robot, area, holds⟩ := shape
  exact ⟨⟨robot, area⟩, fun _ => ofJson_of_holds holds,
    holds.alike rfl (.cons .same (.cons .same .nil))⟩

theorem Supply.ofJson_toJson (place : Place) (supply : Supply) :
    Supply.ofJson place supply.toJson = .ok supply :=
  ofJson_of_holds (holds_object _)

theorem Supply.mirrors (shape : document.IsSupply) :
    Mirrors Supply.ofJson Supply.toJson document := by
  obtain ⟨robot, kinds, quantity, holds⟩ := shape
  exact ⟨⟨robot, kinds, quantity⟩, fun _ => ofJson_of_holds holds,
    holds.alike rfl (.cons .same (.cons .same (.cons .same .nil)))⟩

theorem Origin.ofJson_toJson (place : Place) (origin : Origin) :
    Origin.ofJson place origin.toJson = .ok origin :=
  ofJson_of_holds (holds_object _)

theorem Origin.mirrors (shape : document.IsOrigin) :
    Mirrors Origin.ofJson Origin.toJson document := by
  obtain ⟨robot, x, y, holds⟩ := shape
  exact ⟨⟨robot, ⟨x, y⟩⟩, fun _ => ofJson_of_holds holds,
    holds.alike rfl (.cons .same (.cons .same (.cons .same .nil)))⟩

theorem Setup.ofJson_toJson (place : Place) (setup : Setup) :
    Setup.ofJson place setup.toJson = .ok setup :=
  ofJson_of_holds (holds_object _)
    (readEach_map (fun grant _ place => grant.ofJson_toJson place) _ 0)
    (readEach_map (fun supply _ place => supply.ofJson_toJson place) _ 0)
    (readEach_map (fun origin _ place => origin.ofJson_toJson place) _ 0)

theorem Setup.mirrors (shape : document.IsSetup) : Mirrors Setup.ofJson Setup.toJson document := by
  obtain ⟨_, _, _, grants_shape, supplies_shape, origins_shape, holds⟩ := shape
  obtain ⟨grants, grants_read, grants_alike⟩ := mirrors_each fun item member =>
    Grant.mirrors (grants_shape item member)
  obtain ⟨supplies, supplies_read, supplies_alike⟩ := mirrors_each fun item member =>
    Supply.mirrors (supplies_shape item member)
  obtain ⟨origins, origins_read, origins_alike⟩ := mirrors_each fun item member =>
    Origin.mirrors (origins_shape item member)
  exact ⟨⟨grants, supplies, origins⟩,
    fun _ => ofJson_of_holds holds (grants_read _ 0) (supplies_read _ 0) (origins_read _ 0),
    holds.alike rfl (.cons grants_alike (.cons supplies_alike (.cons origins_alike .nil)))⟩

namespace Program

theorem unwrapped_toDocument (program : Program) (enveloped : Bool) :
    unwrapped (program.toDocument enveloped) = program.toJson := by
  cases enveloped with
  | false => rfl
  | true => exact unwrapped_of_holds (holds_object _)

/-- A written program is read as itself, with an envelope and without. -/
theorem ofJson_toDocument {program : Program} (named : program.name.IsName) (enveloped : Bool) :
    Program.ofJson (program.toDocument enveloped) = .ok program := by
  refine ofJson_of_holds ?_ (holds_object _) named
    (readEach_map (fun procedure _ place => procedure.ofJson_toJson place) _ 0)
    (readEach_map (fun area _ place => area.ofJson_toJson place) _ 0)
    (readEach_map (fun robotType _ place => robotType.ofJson_toJson place) _ 0)
    (readEach_map (fun robot _ place => robot.ofJson_toJson place) _ 0)
    (program.setup.ofJson_toJson _)
  rw [unwrapped_toDocument]
  exact holds_object _

/-- A canonical document without an envelope is read as a program that is written as it is, also
where it stands in an envelope. -/
theorem mirrors_bare {bare : Json} (shape : bare.IsBareProgram) :
    ∃ program, program.toJson.Alike bare ∧
      ∀ document, unwrapped document = bare → Program.ofJson document = .ok program := by
  obtain ⟨label, name, _, _, _, _, _, named, labelled, procedures_shape, areas_shape,
    robotTypes_shape, robots_shape, setup_shape, holds⟩ := shape
  obtain ⟨procedures, procedures_read, procedures_alike⟩ := mirrors_each fun item member =>
    Procedure.mirrors (procedures_shape item member)
  obtain ⟨areas, areas_read, areas_alike⟩ := mirrors_each fun item member =>
    Area.mirrors (areas_shape item member)
  obtain ⟨robotTypes, robotTypes_read, robotTypes_alike⟩ := mirrors_each fun item member =>
    RobotType.mirrors (robotTypes_shape item member)
  obtain ⟨robots, robots_read, robots_alike⟩ := mirrors_each fun item member =>
    Robot.mirrors (robots_shape item member)
  obtain ⟨setup, setup_read, setup_alike⟩ := Setup.mirrors setup_shape
  have label_alike : (Json.object [("type", .string "NAME"), ("identifier", name)]).Alike label :=
    labelled.alike rfl (.cons .same (.cons .same .nil))
  refine ⟨⟨name, procedures, areas, robotTypes, robots, setup⟩,
    holds.alike rfl (.cons label_alike (.cons procedures_alike (.cons areas_alike
      (.cons robotTypes_alike (.cons robots_alike (.cons setup_alike .nil)))))), ?_⟩
  rintro document rfl
  exact ofJson_of_holds holds labelled named (procedures_read _ 0) (areas_read _ 0)
    (robotTypes_read _ 0) (robots_read _ 0) (setup_read _)

theorem unwrapped_of_isBareProgram {bare : Json} (shape : bare.IsBareProgram) :
    unwrapped bare = bare := by
  obtain ⟨_, _, _, _, _, _, _, _, _, _, _, _, _, _, holds⟩ := shape
  obtain ⟨given, rfl, shows⟩ := holds.shows (by simp)
  rw [unwrapped, tagOf, shows.found "type" .null rfl]
  rfl

/-- A canonical document is read as a program that is written as this document. -/
theorem mirrors {enveloped : Bool} (shape : document.IsProgram enveloped) :
    ∃ program, Program.ofJson document = .ok program ∧
      (program.toDocument enveloped).Alike document := by
  cases enveloped with
  | false =>
      obtain ⟨program, alike, read⟩ := mirrors_bare shape
      exact ⟨program, read document (unwrapped_of_isBareProgram shape), alike⟩
  | true =>
      obtain ⟨bare, bare_shape, holds⟩ := shape
      obtain ⟨program, alike, read⟩ := mirrors_bare bare_shape
      exact ⟨program, read document (unwrapped_of_holds holds),
        holds.alike rfl (.cons .same (.cons alike .nil))⟩

end Program

/-- What is written for a part of a program of some kind is read as this part at every place. -/
def ReadsBack {α : Type} (node : α → Node) (ofJson : Place → Json → Except ShapeError α) : Prop :=
  ∀ part enveloped place, ∃ document,
    (node part).toDocument enveloped = .ok document ∧ ofJson place document = .ok part

/-- Reading undoes writing, for programs and for each kind of part, and writing undoes reading for
canonical documents. -/
theorem documents_mirror_programs :
    (∀ (program : Program) (enveloped : Bool), program.name.IsName →
      Program.ofJson (program.toDocument enveloped) = .ok program) ∧
    ReadsBack Node.expression Expression.ofJson ∧
    ReadsBack Node.statement Statement.ofJson ∧
    ReadsBack Node.area Area.ofJson ∧
    ReadsBack Node.procedure Procedure.ofJson ∧
    ReadsBack Node.robotType RobotType.ofJson ∧
    ReadsBack Node.robot Robot.ofJson ∧
    ReadsBack Node.setup Setup.ofJson ∧
    ReadsBack Node.point Point.ofJson ∧
    ∀ (document : Json) (enveloped : Bool), document.IsProgram enveloped →
      ∃ program, Program.ofJson document = .ok program ∧
        (program.toDocument enveloped).Alike document := by
  refine ⟨fun program enveloped named => Program.ofJson_toDocument named enveloped,
    fun part _ place => ⟨_, rfl, part.ofJson_toJson place⟩,
    fun part _ place => ⟨_, rfl, part.ofJson_toJson place⟩,
    fun part _ place => ⟨_, rfl, part.ofJson_toJson place⟩,
    fun part _ place => ⟨_, rfl, part.ofJson_toJson place⟩,
    fun part _ place => ⟨_, rfl, part.ofJson_toJson place⟩,
    fun part _ place => ⟨_, rfl, part.ofJson_toJson place⟩,
    fun part _ place => ⟨_, rfl, part.ofJson_toJson place⟩,
    fun part _ place => ⟨_, rfl, part.ofJson_toJson place⟩,
    fun document enveloped shape => Program.mirrors shape⟩

/-- A robot that turns right where it meets a flower. -/
def gardener : Program :=
  { name := .string "gardener"
    procedures := []
    areas := []
    robotTypes := [⟨"picker", [], [.ifThen (.query "HayFlorEnLaEsquina") (.call "derecha" [])]⟩]
    robots := [⟨"r1", "picker"⟩]
    setup := ⟨[], [], []⟩ }

/-- A document with an envelope whose members are not in the order in which they are written. -/
def emptyGarden : Json :=
  .object
    [ ("value", .object
        [ ("NAME", .object [("identifier", .integer 7), ("type", .string "NAME")])
        , ("PROCEDURES", .array []), ("AREAS", .array []), ("ROBOT_TYPES", .array [])
        , ("INSTANCES", .array [.object [("type", .string "picker"), ("identifier", .string "r1")]])
        , ("INITS", .object
            [("assign_areas", .array []), ("assign_items", .array []), ("assign_origins", .array [])])])
    , ("type", .string "PROGRAM") ]

theorem gardens_mirrored :
    Program.ofJson (gardener.toDocument true) = .ok gardener ∧
      ∃ program, Program.ofJson emptyGarden = .ok program ∧
        (program.toDocument true).Alike emptyGarden := by
  obtain ⟨programs_read, -, -, -, -, -, -, -, -, documents_mirrored⟩ := documents_mirror_programs
  have named : gardener.name.IsName := .inr rfl
  have robot : (Json.object [("type", .string "picker"), ("identifier", .string "r1")]).IsRobot :=
    ⟨"r1", "picker", _, rfl, .swap _ _ _⟩
  have setup : (Json.object
      [ ("assign_areas", .array []), ("assign_items", .array [])
      , ("assign_origins", .array []) ]).IsSetup :=
    ⟨[], [], [], by simp, by simp, by simp, holds_object _⟩
  have canonical : emptyGarden.IsProgram true :=
    ⟨_, ⟨_, .integer 7, [], [], [], [_], _, .inr rfl, ⟨_, rfl, .swap _ _ _⟩, by simp, by simp,
      by simp, List.forall_mem_singleton.mpr robot, setup, holds_object _⟩, _, rfl, .swap _ _ _⟩
  exact ⟨programs_read gardener true named, documents_mirrored emptyGarden true canonical⟩

end RobotCity
