import RobotCity.Proofs.Json.Scanning
import RobotCity.Program.Shape

/-!
# Places of documents

A place is followed from the root by the names of members and the positions of items.  It is shown as
a text, from which the place can be told if no name in it holds a mark of the text.
-/

namespace RobotCity

/-- The last part of a text behind a character that does not occur in it. -/
theorem append_cons_inj_of_notMem {α : Type} {front other back rest : List α} {mark : α}
    (not_back : mark ∉ back) (not_rest : mark ∉ rest) :
    front ++ mark :: back = other ++ mark :: rest ↔ front = other ∧ back = rest := by
  constructor
  · intro same
    rcases List.append_eq_append_iff.mp same with ⟨middle, rfl, shorter⟩ | ⟨middle, rfl, longer⟩
    · cases middle with
      | nil =>
          cases shorter
          exact ⟨(List.append_nil _).symm, rfl⟩
      | cons first middle =>
          cases shorter
          simp at not_back
    · cases middle with
      | nil =>
          cases longer
          exact ⟨List.append_nil _, rfl⟩
      | cons first middle =>
          cases longer
          simp at not_rest
  · rintro ⟨rfl, rfl⟩
    rfl

theorem Text.natText_inj {number other : Nat} : natText number = natText other ↔ number = other := by
  constructor
  · intro same
    have numerals : natNumeral number = natNumeral other := String.ofList_injective same
    rw [← numeralValue_natNumeral number, numerals, numeralValue_natNumeral]
  · exact congrArg natText

namespace Place

/-- The value at a place, if every name and every position on the way to it is there. -/
def follow (root : Json) : Place → Option Json
  | program => some root
  | part _ => none
  | field whole name =>
    match whole.follow root with
    | some (.object members) => Json.member? members name
    | _ => none
  | item whole index =>
    match whole.follow root with
    | some (.array items) => items[index]?
    | _ => none

/-- A name without the marks that separate the names and positions of a place. -/
structure IsWord (name : String) : Prop where
  dot : '.' ∉ name.toList
  opening : '[' ∉ name.toList
  closing : ']' ∉ name.toList

instance (name : String) : Decidable (IsWord name) :=
  decidable_of_iff ('.' ∉ name.toList ∧ '[' ∉ name.toList ∧ ']' ∉ name.toList)
    ⟨fun ⟨dot, opening, closing⟩ => ⟨dot, opening, closing⟩,
      fun ⟨dot, opening, closing⟩ => ⟨dot, opening, closing⟩⟩

/-- A place by names without marks.  No member of the program document is called as the document
itself is. -/
inductive Plain : Place → Prop
  | program : Plain program
  | field {whole : Place} {name : String} : Plain whole → IsWord name →
    (whole = .program → name ≠ "program") → Plain (field whole name)
  | item {whole : Place} {index : Nat} : Plain whole → Plain (item whole index)

theorem text_field {whole : Place} (inner : whole ≠ .program) (name : String) :
    (field whole name).text.toList = whole.text.toList ++ '.' :: name.toList := by
  rw [text]
  · simp
  · exact inner

theorem text_item (whole : Place) (index : Nat) :
    (item whole index).text.toList =
      whole.text.toList ++ '[' :: ((Text.natText index).toList ++ [']']) := by
  rw [text]
  simp

theorem text_root_field (name : String) : (field .program name).text = name := by
  rw [text]

/-- The text of a place ends with a bracket if the place is an item, and only then. -/
theorem getLast?_text_item (whole : Place) (index : Nat) :
    (item whole index).text.toList.getLast? = some ']' := by
  rw [text_item, ← List.cons_append, ← List.append_assoc, List.getLast?_concat]

theorem getLast?_text_field {whole : Place} {name : String} (word : IsWord name) :
    (field whole name).text.toList.getLast? ≠ some ']' := by
  intro bracket
  have no_bracket := word.closing
  by_cases root : whole = .program
  · rw [root, text_root_field] at bracket
    exact no_bracket (List.mem_of_getLast? bracket)
  · rw [text_field root, List.getLast?_append_of_ne_nil _ (by simp)] at bracket
    rcases List.mem_cons.mp (List.mem_of_getLast? bracket) with is_dot | in_name
    · cases is_dot
    · exact no_bracket in_name

theorem bracket_notMem (index : Nat) : '[' ∉ (Text.natText index).toList ++ [']'] := by
  rw [List.mem_append, Text.natText, String.toList_ofList]
  rintro (in_numeral | last)
  · exact absurd (Text.isDigit_of_mem_natNumeral in_numeral) (by decide)
  · exact absurd last (by decide)

theorem dot_mem_text_field {whole : Place} (inner : whole ≠ .program) (name : String) :
    '.' ∈ (field whole name).text.toList := by
  rw [text_field inner]
  exact List.mem_append_right _ (List.mem_cons_self ..)

theorem Plain.eq_program {place : Place} (plain : place.Plain)
    (same : place.text = Place.program.text) : place = .program := by
  cases plain with
  | program => rfl
  | @field whole name whole_plain word apart =>
      by_cases root : whole = .program
      · rw [root, text_root_field] at same
        exact absurd same (apart root)
      · have dot := dot_mem_text_field root name
        rw [same] at dot
        exact absurd dot (by decide)
  | @item whole index whole_plain =>
      have last := getLast?_text_item whole index
      rw [same] at last
      exact absurd last (by decide)

/-- Plain places that are shown alike are the same place. -/
theorem Plain.eq_of_text_eq {place other : Place} (plain : place.Plain) (other_plain : other.Plain)
    (same : place.text = other.text) : place = other := by
  -- the end of the text tells a name from a position, and the last mark in it is the one in front
  -- of this name or position, so that what is left of the mark is the text of the place around it
  induction plain generalizing other with
  | program => exact (other_plain.eq_program same.symm).symm
  | @field whole name whole_plain word apart ih =>
      cases other_plain with
      | program => exact (Plain.field whole_plain word apart).eq_program same
      | @item other_whole index other_whole_plain =>
          have last := getLast?_text_item other_whole index
          rw [← same] at last
          exact absurd last (getLast?_text_field word)
      | @field other_whole other_name other_whole_plain other_word other_apart =>
          by_cases root : whole = .program <;> by_cases other_root : other_whole = .program
          · subst root other_root
            rw [text_root_field, text_root_field] at same
            rw [same]
          · have dot := dot_mem_text_field other_root other_name
            rw [← same, root, text_root_field] at dot
            exact absurd dot word.dot
          · have dot := dot_mem_text_field root name
            rw [same, other_root, text_root_field] at dot
            exact absurd dot other_word.dot
          · have lists := congrArg String.toList same
            rw [text_field root, text_field other_root,
              append_cons_inj_of_notMem word.dot other_word.dot] at lists
            rw [ih other_whole_plain (String.toList_inj.mp lists.1), String.toList_inj.mp lists.2]
  | @item whole index whole_plain ih =>
      cases other_plain with
      | program => exact (Plain.item whole_plain).eq_program same
      | @field other_whole name other_whole_plain word other_apart =>
          have last := getLast?_text_item whole index
          rw [same] at last
          exact absurd last (getLast?_text_field word)
      | @item other_whole other_index other_whole_plain =>
          have lists := congrArg String.toList same
          rw [text_item, text_item,
            append_cons_inj_of_notMem (bracket_notMem index) (bracket_notMem other_index)] at lists
          have numerals := String.toList_inj.mp (List.append_cancel_right lists.2)
          rw [ih other_whole_plain (String.toList_inj.mp lists.1), Text.natText_inj.mp numerals]

end Place
end RobotCity
