import RobotCity.Proofs.Documents.Mirror
import RobotCity.Proofs.Documents.ShownDefects
import RobotCity.Proofs.Json.Reading

/-!
# Programs handed on as text

A program is written in the characters of ASCII and read back from this text, in every layout, with
an envelope and without.  All that is asked of it is that its name is a text and that its integers
are short enough to be converted.
-/

namespace RobotCity

open Text (IsShort)
open Json (Plain)

/-- The integers that stand in an expression. -/
def Expression.integers : Expression → List Int
  | .integer value => [value]
  | .boolean _ | .variable _ | .query _ => []
  | .unary _ operand => operand.integers
  | .binary _ left right => left.integers ++ right.integers

/-- The integers that stand in what `Informar` shows first. -/
def Notice.integers : Notice → List Int
  | .text _ => []
  | .value expression => expression.integers

namespace Statement

mutual

/-- The integers that stand in a statement. -/
def integers : Statement → List Int
  | .assign _ value => value.integers
  | .block body => bodyIntegers body
  | .ifThen condition body => condition.integers ++ integers body
  | .ifElse condition body otherwise =>
    condition.integers ++ integers body ++ integers otherwise
  | .times count body => count.integers ++ integers body
  | .loop condition body => condition.integers ++ integers body
  | .inform notice value => notice.integers ++ (value.map Expression.integers).getD []
  | .moveTo x y => x.integers ++ y.integers
  | .exchange _ value _ => value.integers
  | .corner _ x y => x.integers ++ y.integers
  | .call _ arguments => arguments.flatMap Expression.integers

/-- The integers that stand in the statements of a body. -/
def bodyIntegers : List Statement → List Int
  | [] => []
  | first :: rest => integers first ++ bodyIntegers rest

end

end Statement

/-- The integers of a corner. -/
def Point.integers (point : Point) : List Int :=
  [point.x, point.y]

/-- The integers that stand in a setup. -/
def Setup.integers (setup : Setup) : List Int :=
  setup.supplies.map (·.quantity) ++ setup.origins.flatMap (·.point.integers)

/-- The integers that stand in a program. -/
def Program.integers (program : Program) : List Int :=
  program.procedures.flatMap (Statement.bodyIntegers ·.body) ++
    program.areas.flatMap (fun area => area.extent.low.integers ++ area.extent.high.integers) ++
    program.robotTypes.flatMap (Statement.bodyIntegers ·.body) ++ program.setup.integers

theorem plain_object {members : List (Text × Json)} (names_nodup : (members.map (·.1)).Nodup)
    (values_plain : members.Forall (·.2.Plain)) : (Json.object members).Plain :=
  .object names_nodup (List.forall_iff_forall_mem.mp values_plain)

theorem plain_map {α : Type} {toJson : α → Json} {parts : List α}
    (plain : ∀ part ∈ parts, (toJson part).Plain) : (Json.array (parts.map toJson)).Plain :=
  .array (List.forall_mem_map.mpr plain)

theorem Expression.toJson_plain {expression : Expression}
    (short : ∀ value ∈ expression.integers, IsShort value) : expression.toJson.Plain := by
  induction expression with
  | integer value =>
      exact plain_object (by simp) ⟨.string, .integer (short value (List.mem_singleton_self value))⟩
  | boolean value => exact plain_object (by simp) ⟨.string, .boolean⟩
  | «variable» name => exact plain_object (by simp) ⟨.string, .string⟩
  | query name => exact plain_object (by simp) ⟨.string, .string⟩
  | unary operator operand ih => exact plain_object (by simp) ⟨.string, .string, ih short⟩
  | binary operator left right left_ih right_ih =>
      obtain ⟨left_short, right_short⟩ := List.forall_mem_append.mp short
      exact plain_object (by simp) ⟨.string, .string, left_ih left_short, right_ih right_short⟩

theorem Notice.toJson_plain {notice : Notice} (short : ∀ value ∈ notice.integers, IsShort value) :
    notice.toJson.Plain := by
  cases notice with
  | text content => exact plain_object (by simp) ⟨.string, .string⟩
  | value expression => exact Expression.toJson_plain short

namespace Statement

mutual

theorem toJson_plain (statement : Statement)
    (short : ∀ value ∈ statement.integers, IsShort value) : statement.toJson.Plain := by
  cases statement with
  | assign target value =>
      exact plain_object (by simp) ⟨.string, .string, Expression.toJson_plain short⟩
  | block body => exact plain_object (by simp) ⟨.string, .array (bodyToJson_plain body short)⟩
  | ifThen condition body =>
      obtain ⟨condition_short, body_short⟩ := List.forall_mem_append.mp short
      exact plain_object (by simp)
        ⟨.string, Expression.toJson_plain condition_short, toJson_plain body body_short⟩
  | ifElse condition body otherwise =>
      obtain ⟨before_short, otherwise_short⟩ := List.forall_mem_append.mp short
      obtain ⟨condition_short, body_short⟩ := List.forall_mem_append.mp before_short
      exact plain_object (by simp)
        ⟨.string, Expression.toJson_plain condition_short, toJson_plain body body_short,
          toJson_plain otherwise otherwise_short⟩
  | times count body =>
      obtain ⟨count_short, body_short⟩ := List.forall_mem_append.mp short
      exact plain_object (by simp)
        ⟨.string, Expression.toJson_plain count_short, toJson_plain body body_short⟩
  | loop condition body =>
      obtain ⟨condition_short, body_short⟩ := List.forall_mem_append.mp short
      exact plain_object (by simp)
        ⟨.string, Expression.toJson_plain condition_short, toJson_plain body body_short⟩
  | inform notice value =>
      obtain ⟨notice_short, value_short⟩ := List.forall_mem_append.mp short
      cases value with
      | none =>
          exact plain_object (by simp)
            ⟨.string, Notice.toJson_plain notice_short, plain_object .nil trivial⟩
      | some value =>
          exact plain_object (by simp)
            ⟨.string, Notice.toJson_plain notice_short, Expression.toJson_plain value_short⟩
  | moveTo x y =>
      obtain ⟨x_short, y_short⟩ := List.forall_mem_append.mp short
      exact plain_object (by simp)
        ⟨.string, Expression.toJson_plain x_short, Expression.toJson_plain y_short⟩
  | exchange mode value recipient =>
      exact plain_object (by simp) ⟨.string, .string, Expression.toJson_plain short, .string⟩
  | corner mode x y =>
      obtain ⟨x_short, y_short⟩ := List.forall_mem_append.mp short
      exact plain_object (by simp)
        ⟨.string, .string, Expression.toJson_plain x_short, Expression.toJson_plain y_short⟩
  | call procedure arguments =>
      refine plain_object (by simp) ⟨.string, .string, plain_map fun argument member => ?_⟩
      exact Expression.toJson_plain fun value stands =>
        short value (List.mem_flatMap.mpr ⟨argument, member, stands⟩)

theorem bodyToJson_plain (body : List Statement)
    (short : ∀ value ∈ bodyIntegers body, IsShort value) :
    ∀ item ∈ bodyToJson body, item.Plain := by
  cases body with
  | nil => simp [bodyToJson]
  | cons first rest =>
      obtain ⟨first_short, rest_short⟩ := List.forall_mem_append.mp short
      rw [bodyToJson, List.forall_mem_cons]
      exact ⟨toJson_plain first first_short, bodyToJson_plain rest rest_short⟩

end

end Statement

theorem Variable.toJson_plain (declared : Variable) : declared.toJson.Plain :=
  plain_object (by simp) ⟨.string, .string⟩

theorem Parameter.toJson_plain (parameter : Parameter) : parameter.toJson.Plain :=
  plain_object (by simp) ⟨.string, .string, .string⟩

theorem Procedure.toJson_plain {procedure : Procedure}
    (short : ∀ value ∈ Statement.bodyIntegers procedure.body, IsShort value) :
    procedure.toJson.Plain :=
  plain_object (by simp)
    ⟨.string, plain_map fun parameter _ => parameter.toJson_plain,
      plain_map fun declared _ => declared.toJson_plain,
      .array (Statement.bodyToJson_plain procedure.body short)⟩

theorem RobotType.toJson_plain {robotType : RobotType}
    (short : ∀ value ∈ Statement.bodyIntegers robotType.body, IsShort value) :
    robotType.toJson.Plain :=
  plain_object (by simp)
    ⟨.string, plain_map fun declared _ => declared.toJson_plain,
      .array (Statement.bodyToJson_plain robotType.body short)⟩

theorem Point.coordinates_short {point : Point} (short : ∀ value ∈ point.integers, IsShort value) :
    IsShort point.x ∧ IsShort point.y :=
  ⟨short point.x List.mem_cons_self, short point.y (List.mem_cons_of_mem _ List.mem_cons_self)⟩

theorem Point.toJson_plain {point : Point} (short : ∀ value ∈ point.integers, IsShort value) :
    point.toJson.Plain := by
  obtain ⟨x_short, y_short⟩ := Point.coordinates_short short
  exact plain_object (by simp) ⟨.integer x_short, .integer y_short⟩

theorem Area.toJson_plain {area : Area}
    (low_short : ∀ value ∈ area.extent.low.integers, IsShort value)
    (high_short : ∀ value ∈ area.extent.high.integers, IsShort value) : area.toJson.Plain :=
  plain_object (by simp)
    ⟨.string, .string, Point.toJson_plain low_short, Point.toJson_plain high_short⟩

theorem Robot.toJson_plain (robot : Robot) : robot.toJson.Plain :=
  plain_object (by simp) ⟨.string, .string⟩

theorem Grant.toJson_plain (grant : Grant) : grant.toJson.Plain :=
  plain_object (by simp) ⟨.string, .string⟩

theorem Supply.toJson_plain {supply : Supply} (short : IsShort supply.quantity) :
    supply.toJson.Plain :=
  plain_object (by simp) ⟨.string, plain_map fun _ _ => .string, .integer short⟩

theorem Origin.toJson_plain {origin : Origin}
    (short : ∀ value ∈ origin.point.integers, IsShort value) : origin.toJson.Plain := by
  obtain ⟨x_short, y_short⟩ := Point.coordinates_short short
  exact plain_object (by simp) ⟨.string, .integer x_short, .integer y_short⟩

theorem Setup.toJson_plain {setup : Setup} (short : ∀ value ∈ setup.integers, IsShort value) :
    setup.toJson.Plain := by
  obtain ⟨quantities_short, points_short⟩ := List.forall_mem_append.mp short
  rw [List.forall_mem_map] at quantities_short
  rw [List.forall_mem_flatMap] at points_short
  exact plain_object (by simp)
    ⟨plain_map fun grant _ => grant.toJson_plain,
      plain_map fun supply member => Supply.toJson_plain (quantities_short supply member),
      plain_map fun origin member => Origin.toJson_plain (points_short origin member)⟩

namespace Program

variable {program : Program} {name : Text}

theorem toJson_plain (name_plain : program.name.Plain)
    (short : ∀ value ∈ program.integers, IsShort value) : program.toJson.Plain := by
  simp only [integers, List.forall_mem_append, List.forall_mem_flatMap] at short
  obtain ⟨⟨⟨procedures_short, areas_short⟩, robotTypes_short⟩, setup_short⟩ := short
  exact plain_object (by simp)
    ⟨plain_object (by simp) ⟨.string, name_plain⟩,
      plain_map fun procedure member => Procedure.toJson_plain (procedures_short procedure member),
      plain_map fun area member =>
        Area.toJson_plain (areas_short area member).1 (areas_short area member).2,
      plain_map fun robotType member => RobotType.toJson_plain (robotTypes_short robotType member),
      plain_map fun robot _ => robot.toJson_plain, Setup.toJson_plain setup_short⟩

theorem toDocument_plain_of_name (enveloped : Bool) (name_plain : program.name.Plain)
    (short : ∀ value ∈ program.integers, IsShort value) :
    (program.toDocument enveloped).Plain := by
  cases enveloped with
  | false => exact toJson_plain name_plain short
  | true => exact plain_object (by simp) ⟨.string, toJson_plain name_plain short⟩

theorem toDocument_plain (enveloped : Bool) (named : program.name = .string name)
    (short : ∀ value ∈ program.integers, IsShort value) :
    (program.toDocument enveloped).Plain :=
  toDocument_plain_of_name enveloped (named ▸ .string) short

theorem toJson_showable (name_showable : program.name.Showable)
    (short : ∀ value ∈ program.integers, IsShort value) : program.toJson.Showable := by
  -- The document without the name is plain; and the name stands in one of its members only.
  have plain : Plain (toJson { program with name := .string "" }) := toJson_plain .string short
  have nameless := plain.showable
  rw [toJson, Json.showable_object_iff, List.forall_mem_cons] at nameless ⊢
  refine ⟨Json.showable_object_iff.mpr (List.forall_mem_cons.mpr ⟨Json.showable_string _, ?_⟩),
    nameless.2⟩
  exact List.forall_mem_singleton.mpr name_showable

theorem toDocument_showable (enveloped : Bool) (name_showable : program.name.Showable)
    (short : ∀ value ∈ program.integers, IsShort value) :
    (program.toDocument enveloped).Showable := by
  cases enveloped with
  | false => exact toJson_showable name_showable short
  | true =>
      refine Json.showable_object_iff.mpr
        (List.forall_mem_cons.mpr ⟨Json.showable_string _, ?_⟩)
      exact List.forall_mem_singleton.mpr (toJson_showable name_showable short)

end Program

theorem Json.isName_string (name : Text) : (Json.string name).IsName := by
  obtain ⟨units⟩ := name
  cases units with
  | nil => exact .inl rfl
  | cons unit units => exact .inr rfl

theorem Json.Layout.ofIndent_ne_line {indent : Option Int}
    (indented : Layout.ofIndent indent ≠ .line) : indent ≠ none := by
  rintro rfl
  exact indented rfl

/-- The characters of a program as text, however long its integers are. -/
def Program.written (layout : Json.Layout) (enveloped : Bool) (program : Program) : List Char :=
  (program.toDocument enveloped).written layout 0

theorem Program.toText_of_showable {enveloped : Bool} {program : Program}
    (showable : (program.toDocument enveloped).Showable) (layout : Json.Layout) :
    program.toText layout enveloped = .ok (String.ofList (program.written layout enveloped)) :=
  showable.render_eq layout

/-- A program has a text, which is read as this program.  It holds nothing but visible characters of
ASCII, blanks and, where an indentation is given, line ends. -/
theorem texts_hand_programs_on (program : Program) (name : Text)
    (named : program.name = .string name)
    (short : ∀ value ∈ program.integers, (Nat.toDigits 10 value.natAbs).length ≤ 4300)
    (indent : Option Int) (enveloped : Bool) :
    ∃ text, program.toText (.ofIndent indent) enveloped = .ok text ∧
      Program.ofText text = .ok program ∧
      ∀ c ∈ text.toList, (0x20 ≤ c.toNat ∧ c.toNat ≤ 0x7e) ∨ (c = '\n' ∧ indent ≠ none) := by
  have plain : (program.toDocument enveloped).Plain :=
    Program.toDocument_plain enveloped named short
  refine ⟨_, Program.toText_of_showable plain.showable (.ofIndent indent), ?_⟩
  rw [Program.ofText, String.toList_ofList, Program.written]
  constructor
  · have is_name : program.name.IsName := named ▸ Json.isName_string name
    rw [Program.ofChars_of_readChars (Json.readChars_written plain (.ofIndent indent)),
      Program.ofJson_toDocument is_name]
    rfl
  · intro c member
    exact (plain.allowed 0 c member).imp_right fun line_end =>
      ⟨line_end.1, Json.Layout.ofIndent_ne_line line_end.2⟩

/-- A program whose texts hold a quote, a backslash, a line end, the last character of ASCII and one
beyond the first plane. -/
def beacon : Program :=
  { name := .string "say \"\\\n\x7f\""
    procedures := []
    areas := [⟨"harbour", .shared, ⟨⟨-1, 0⟩, ⟨20, 100⟩⟩⟩]
    robotTypes := [⟨"lamp", [], [.inform (.text "🗼") (some (.unary "-" (.integer (-7))))]⟩]
    robots := [⟨"é", "lamp"⟩]
    setup := ⟨[], [⟨"é", [], 0⟩], [⟨"é", ⟨5, 5⟩⟩]⟩ }

theorem beacon_handed_on :
    ∃ text, beacon.toText (.ofIndent (some (-2))) true = .ok text ∧
      Program.ofText text = .ok beacon ∧
      ∀ c ∈ text.toList, (0x20 ≤ c.toNat ∧ c.toNat ≤ 0x7e) ∨ (c = '\n' ∧ some (-2) ≠ none) := by
  have short : ∀ value ∈ beacon.integers, (Nat.toDigits 10 value.natAbs).length ≤ 4300 := by
    decide
  exact texts_hand_programs_on beacon _ rfl short (some (-2)) true

end RobotCity
