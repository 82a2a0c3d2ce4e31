import RobotCity.Proofs.Documents.HandOff
import RobotCity.Proofs.Documents.ProgramReaders
import RobotCity.Proofs.Json.Soundness

/-!
# Programs that were read can be written

Whatever text a program was read from, it can be written so that its text is read back as this
program.  Only a name with doubles in it is left out.
-/

namespace RobotCity

open Text (IsShort)
open Json (member member? Sound)

namespace Json

variable {α : Type} {spelled : Json → α → Prop} {members : List (Text × Json)} {name : String}
  {parts : List α}

/-- The items that spell the parts of a list are sound. -/
theorem Lists.exists_sound (listed : Lists spelled members name parts)
    (sound : (Json.object members).Sound) :
    ∃ items, (∀ item ∈ items, item.Sound) ∧ List.Forall₂ spelled items parts := by
  obtain ⟨there, all⟩ := listed
  exact ⟨_, (sound.of_member? there).of_item, all⟩

theorem ListsIfNamed.exists_sound (listed : ListsIfNamed spelled members name parts)
    (sound : (Json.object members).Sound) :
    ∃ items, (∀ item ∈ items, item.Sound) ∧ List.Forall₂ spelled items parts := by
  cases listed with
  | missing => exact ⟨[], by simp, .nil⟩
  | named listed => exact listed.exists_sound sound

theorem exists_sound_of_mem {items : List Json} (all : List.Forall₂ spelled items parts)
    (items_sound : ∀ item ∈ items, item.Sound) :
    ∀ part ∈ parts, ∃ item : Json, item.Sound ∧ spelled item part := by
  induction all with
  | nil => simp
  | cons here _ ih =>
      obtain ⟨first_sound, rest_sound⟩ := List.forall_mem_cons.mp items_sound
      exact List.forall_mem_cons.mpr ⟨⟨_, first_sound, here⟩, ih rest_sound⟩

theorem ListsIfNamed.of_mem (listed : ListsIfNamed spelled members name parts)
    (sound : (Json.object members).Sound) :
    ∀ part ∈ parts, ∃ item : Json, item.Sound ∧ spelled item part := by
  obtain ⟨items, items_sound, all⟩ := listed.exists_sound sound
  exact exists_sound_of_mem all items_sound

theorem Sound.short_of_member {value : Int} (sound : (Json.object members).Sound)
    (found : member members name = .integer value) : IsShort value := by
  have value_sound := sound.of_member name
  rw [found] at value_sound
  cases value_sound with
  | integer short => exact short

end Json

theorem Expression.Spelled.short {document : Json} {expression : Expression}
    (spelled : expression.Spelled document) (sound : document.Sound) :
    ∀ value ∈ expression.integers, IsShort value := by
  induction spelled with
  | integer typed found => exact List.forall_mem_singleton.mpr (sound.short_of_member found)
  | unary typed operator operand ih => exact ih (sound.of_member _)
  | binary typed operator left right left_ih right_ih =>
      exact List.forall_mem_append.mpr
        ⟨left_ih (sound.of_member _), right_ih (sound.of_member _)⟩
  | _ => exact List.forall_mem_nil _

theorem Notice.Spelled.short {document : Json} {notice : Notice} (spelled : notice.Spelled document)
    (sound : document.Sound) : ∀ value ∈ notice.integers, IsShort value := by
  cases spelled with
  | text typed found => exact List.forall_mem_nil _
  | value spelled => exact spelled.short sound

namespace Statement

mutual

/-- A statement that a sound document spells has short integers. -/
theorem Spelled.short (statement : Statement) {document : Json}
    (spelled : statement.Spelled document) (sound : document.Sound) :
    ∀ value ∈ statement.integers, IsShort value := by
  -- by recursion on the statement: the relation has no induction hypothesis for the statements of
  -- a block
  cases statement with
  | assign target value =>
      cases spelled with
      | assign typed found value => exact value.short (sound.of_member _)
  | block body =>
      cases spelled with
      | block typed there all => exact body_short body all (sound.of_member? there).of_item
  | ifThen condition body =>
      cases spelled with
      | ifThen typed condition body_spelled not_given =>
          exact List.forall_mem_append.mpr ⟨condition.short (sound.of_member _),
            Spelled.short body body_spelled (sound.of_member _)⟩
  | ifElse condition body otherwise =>
      cases spelled with
      | ifElse typed condition body_spelled given otherwise_spelled =>
          exact List.forall_mem_append.mpr ⟨List.forall_mem_append.mpr
            ⟨condition.short (sound.of_member _),
              Spelled.short body body_spelled (sound.of_member _)⟩,
            Spelled.short otherwise otherwise_spelled (sound.of_member _)⟩
  | times count body =>
      cases spelled with
      | times typed count body_spelled =>
          exact List.forall_mem_append.mpr ⟨count.short (sound.of_member _),
            Spelled.short body body_spelled (sound.of_member _)⟩
  | loop condition body =>
      cases spelled with
      | loop typed condition body_spelled =>
          exact List.forall_mem_append.mpr ⟨condition.short (sound.of_member _),
            Spelled.short body body_spelled (sound.of_member _)⟩
  | inform notice value =>
      cases spelled with
      | inform typed notice value =>
          refine List.forall_mem_append.mpr ⟨notice.short (sound.of_member _), ?_⟩
          cases value with
          | nothing => exact List.forall_mem_nil _
          | given is_given value => exact value.short (sound.of_member _)
  | moveTo x y =>
      cases spelled with
      | moveTo typed x y =>
          exact List.forall_mem_append.mpr
            ⟨x.short (sound.of_member _), y.short (sound.of_member _)⟩
  | exchange mode value recipient =>
      cases spelled with
      | exchange typed mode value recipient => exact value.short (sound.of_member _)
  | corner mode x y =>
      cases spelled with
      | corner typed mode x y =>
          exact List.forall_mem_append.mpr
            ⟨x.short (sound.of_member _), y.short (sound.of_member _)⟩
  | call procedure arguments =>
      cases spelled with
      | call typed found listed =>
          refine List.forall_mem_flatMap.mpr fun argument member => ?_
          obtain ⟨item, item_sound, spelled⟩ := listed.of_mem sound argument member
          exact spelled.short item_sound

theorem body_short (body : List Statement) {items : List Json}
    (all : List.Forall₂ Spelled items body) (items_sound : ∀ item ∈ items, item.Sound) :
    ∀ value ∈ bodyIntegers body, IsShort value := by
  cases body with
  | nil => exact List.forall_mem_nil _
  | cons first rest =>
      cases all with
      | cons here behind =>
          obtain ⟨first_sound, rest_sound⟩ := List.forall_mem_cons.mp items_sound
          exact List.forall_mem_append.mpr
            ⟨Spelled.short first here first_sound, body_short rest behind rest_sound⟩

end

end Statement

theorem Json.Lists.body_short {members : List (Text × Json)} {name : String}
    {body : List Statement} (listed : Json.Lists Statement.Spelled members name body)
    (sound : (Json.object members).Sound) :
    ∀ value ∈ Statement.bodyIntegers body, IsShort value := by
  obtain ⟨items, items_sound, all⟩ := listed.exists_sound sound
  exact Statement.body_short body all items_sound

theorem Point.short_of_spells {document : Json} {point : Point}
    (spelled : document.Spells Point.SpelledBy point) (sound : document.Sound) :
    ∀ value ∈ point.integers, IsShort value := by
  obtain ⟨x, y⟩ := spelled
  exact List.forall_mem_cons.mpr
    ⟨sound.short_of_member x, List.forall_mem_singleton.mpr (sound.short_of_member y)⟩

theorem Setup.SpelledBy.short {members : List (Text × Json)} {setup : Setup}
    (spelled : Setup.SpelledBy members setup) (sound : (Json.object members).Sound) :
    ∀ value ∈ setup.integers, IsShort value := by
  refine List.forall_mem_append.mpr
    ⟨List.forall_mem_map.mpr fun supply member => ?_,
      List.forall_mem_flatMap.mpr fun origin member => ?_⟩
  · obtain ⟨item, item_sound, spelled⟩ := spelled.supplies.of_mem sound supply member
    obtain ⟨robot, kinds, quantity⟩ := spelled
    exact item_sound.short_of_member quantity
  · obtain ⟨item, item_sound, spelled⟩ := spelled.origins.of_mem sound origin member
    obtain ⟨robot, x, y⟩ := spelled
    exact List.forall_mem_cons.mpr
      ⟨item_sound.short_of_member x, List.forall_mem_singleton.mpr (item_sound.short_of_member y)⟩

theorem Setup.SpelledIn.short {members : List (Text × Json)} {setup : Setup}
    (spelled : Setup.SpelledIn members setup) (sound : (Json.object members).Sound) :
    ∀ value ∈ setup.integers, IsShort value := by
  cases spelled with
  | missing => exact List.forall_mem_nil _
  | named there spelled =>
      have inner_sound := sound.of_member? there
      obtain ⟨spelled⟩ := spelled
      exact spelled.short inner_sound

namespace Program

/-- What every program has that was read from a text. -/
structure Sound (program : Program) : Prop where
  name_sound : program.name.Sound
  is_name : program.name.IsName
  short : ∀ value ∈ program.integers, IsShort value

/-- A program can be written so that its text is read back as this program. -/
structure Writable (program : Program) : Prop where
  name_plain : program.name.Plain
  is_name : program.name.IsName
  short : ∀ value ∈ program.integers, IsShort value

theorem SpelledBy.short {members : List (Text × Json)} {program : Program}
    (spelled : Program.SpelledBy members program) (sound : (Json.object members).Sound) :
    ∀ value ∈ program.integers, IsShort value := by
  simp only [integers, List.forall_mem_append, List.forall_mem_flatMap]
  refine ⟨⟨⟨fun procedure member => ?_, fun area member => ?_⟩, fun robotType member => ?_⟩,
    spelled.setup.short sound⟩
  · obtain ⟨item, item_sound, ⟨spelled⟩⟩ := spelled.procedures.of_mem sound procedure member
    exact spelled.body.body_short item_sound
  · obtain ⟨item, item_sound, ⟨spelled⟩⟩ := spelled.areas.of_mem sound area member
    exact ⟨Point.short_of_spells spelled.low (item_sound.of_member _),
      Point.short_of_spells spelled.high (item_sound.of_member _)⟩
  · obtain ⟨item, item_sound, ⟨spelled⟩⟩ := spelled.robotTypes.of_mem sound robotType member
    exact spelled.body.body_short item_sound

theorem NamedBy.sound {members : List (Text × Json)} {name : Json}
    (named : Program.NamedBy members name) (sound : (Json.object members).Sound) : name.Sound := by
  cases named with
  | label labelled named given => exact (sound.of_member? labelled).of_member? named
  | nothing => exact .string

theorem NamedBy.isName {members : List (Text × Json)} {name : Json}
    (named : Program.NamedBy members name) : name.IsName := by
  cases named with
  | label labelled named given => exact .inr given
  | nothing => exact .inl rfl

theorem Spelled.sound {document : Json} {program : Program}
    (spelled : Program.Spelled document program) (sound : document.Sound) : program.Sound := by
  obtain ⟨inner, unwraps, spells⟩ := spelled
  have inner_sound : inner.Sound := by
    cases unwraps with
    | envelope typed valued => exact sound.of_member? valued
    | bare => exact sound
  obtain ⟨spelled⟩ := spells
  exact ⟨spelled.name.sound inner_sound, spelled.name.isName, spelled.short inner_sound⟩

theorem sound_of_read {text : List Char} {program : Program}
    (read : Program.ofChars text = .ok program) : program.Sound := by
  cases scanned : Json.readChars text with
  | error reason =>
      rw [ofChars, scanned] at read
      cases reason <;> cases read
  | ok document =>
      rw [ofChars_of_readChars scanned, mapError_eq_ok_iff] at read
      have spelled := ((ofJson_reads document).eq_ok_iff program).mp read
      exact spelled.sound (Json.readChars_sound scanned)

namespace Sound

variable {program : Program} (sound : program.Sound)

include sound

theorem writable (name_free : program.name.FloatFree) : program.Writable :=
  ⟨sound.name_sound.plain name_free, sound.is_name, sound.short⟩

theorem toText_eq (layout : Json.Layout) (enveloped : Bool) :
    program.toText layout enveloped = .ok (String.ofList (program.written layout enveloped)) :=
  toText_of_showable (toDocument_showable enveloped sound.name_sound.showable sound.short) layout

end Sound

namespace Writable

variable {program : Program} (writable : program.Writable)

include writable

theorem document_plain (enveloped : Bool) : (program.toDocument enveloped).Plain :=
  toDocument_plain_of_name enveloped writable.name_plain writable.short

/-- The text of a program is read back as this program, also if a line end follows. -/
theorem read_line (layout : Json.Layout) (enveloped : Bool) :
    Program.ofChars (program.written layout enveloped ++ ['\n']) = .ok program := by
  have blank : ∀ c ∈ ['\n'], Json.isSpace c := by simp [Json.isSpace]
  have read := Json.readChars_written_append (writable.document_plain enveloped) layout blank
    (Json.endsValue_cons (by decide))
  rw [written, ofChars_of_readChars read, ofJson_toDocument writable.is_name]
  rfl

theorem line_allowed (layout : Json.Layout) (enveloped : Bool) :
    ∀ c ∈ program.written layout enveloped ++ ['\n'], Json.IsInk c ∨ c = '\n' := by
  rw [written, List.forall_mem_append]
  refine ⟨fun c member => ?_, by simp⟩
  exact ((writable.document_plain enveloped).allowed 0 c member).imp_right And.left

end Writable

end Program
end RobotCity
