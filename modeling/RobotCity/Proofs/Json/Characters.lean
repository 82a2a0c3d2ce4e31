import RobotCity.Proofs.Json.Scanning
import RobotCity.Proofs.Json.Showing

/-!
# Characters of written values

Plain values are written in the visible characters of ASCII and blanks.  Lines break only in the
indented layout.
-/

namespace RobotCity
namespace Json

/-- A value without doubles, whose integers are short enough to be converted and whose objects have
one member under a name. -/
inductive Plain : Json → Prop
  | null : Plain .null
  | boolean {value : Bool} : Plain (.boolean value)
  | integer {value : Int} : Text.IsShort value → Plain (.integer value)
  | string {text : Text} : Plain (.string text)
  | array {items : List Json} : (∀ item ∈ items, Plain item) → Plain (.array items)
  | object {members : List (Text × Json)} : (members.map (·.1)).Nodup →
    (∀ entry ∈ members, Plain entry.2) → Plain (.object members)

theorem Plain.showable {value : Json} (plain : value.Plain) : value.Showable := by
  induction plain with
  | integer short => exact showable_integer_iff.mpr short
  | array items_plain ih => exact showable_array_iff.mpr ih
  | object names_nodup values_plain ih => exact showable_object_iff.mpr ih
  | _ => exact List.forall_mem_nil _

/-- The visible characters of ASCII and the blank. -/
def IsInk (c : Char) : Prop :=
  0x20 ≤ c.toNat ∧ c.toNat ≤ 0x7e

instance : DecidablePred IsInk := fun _ => inferInstanceAs (Decidable (_ ∧ _))

/-- The characters of a text in a layout. -/
def Layout.Allows (layout : Layout) (c : Char) : Prop :=
  IsInk c ∨ c = '\n' ∧ layout ≠ .line

theorem isInk_of_isDigit {c : Char} (digit : c.isDigit) : IsInk c := by
  simp only [Char.isDigit, Bool.and_eq_true, decide_eq_true_eq, UInt32.le_iff_toNat_le] at digit
  obtain ⟨low, high⟩ := digit
  exact ⟨Nat.le_trans (by decide) low, Nat.le_trans high (by decide)⟩

theorem isInk_digitChar {digit : Nat} (bound : digit < 16) : IsInk (Nat.digitChar digit) := by
  revert digit
  decide

theorem intNumeral_isInk (value : Int) : ∀ c ∈ Text.intNumeral value, IsInk c := by
  have digits (number : Nat) : ∀ c ∈ Text.natNumeral number, IsInk c :=
    fun c member => isInk_of_isDigit (Text.isDigit_of_mem_natNumeral member)
  cases value with
  | ofNat number => exact digits number
  | negSucc number => exact List.forall_mem_cons.mpr ⟨by decide, digits (number + 1)⟩

theorem unitEscape_isInk (unit : UInt16) : ∀ c ∈ Text.unitEscape unit, IsInk c := by
  have bound : unit.toNat < 0x10000 := unit.toNat_lt
  rw [Text.unitEscape, Text.hexNumeral_four bound]
  simp only [List.forall_mem_cons]
  exact ⟨by decide, by decide, isInk_digitChar (by omega), isInk_digitChar (by omega),
    isInk_digitChar (by omega), isInk_digitChar (by omega), by simp⟩

theorem isInk_escapeLetter {unit : UInt16} {letter : Char}
    (escape : escapeLetter? unit = some letter) : IsInk letter := by
  simp only [escapeLetter?] at escape
  split_ifs at escape
  all_goals
    cases escape
    decide

theorem writtenUnit_isInk (unit : UInt16) : ∀ c ∈ writtenUnit unit, IsInk c := by
  rw [writtenUnit]
  cases escape : escapeLetter? unit with
  | some letter =>
      simp only [List.forall_mem_cons]
      exact ⟨by decide, isInk_escapeLetter escape, by simp⟩
  | none =>
      dsimp only
      split
      · rename_i plain
        obtain ⟨code, low, high⟩ := toNat_ofNat_plain plain
        refine List.forall_mem_singleton.mpr ⟨?_, ?_⟩
        · omega
        · omega
      · exact unitEscape_isInk unit

theorem writtenText_isInk (text : Text) : ∀ c ∈ writtenText text, IsInk c := by
  rw [writtenText, List.forall_mem_append, List.forall_mem_cons, List.forall_mem_flatMap]
  exact ⟨⟨by decide, fun unit _ => writtenUnit_isInk unit⟩, by simp [IsInk]⟩

variable {layout : Layout}

theorem allowed_of_isInk {chars : List Char} (ink : ∀ c ∈ chars, IsInk c) :
    ∀ c ∈ chars, layout.Allows c :=
  fun c member => .inl (ink c member)

theorem lineBreak_allowed (depth : Nat) : ∀ c ∈ layout.lineBreak depth, layout.Allows c := by
  cases layout with
  | line => simp [Layout.lineBreak]
  | indented width =>
      refine List.forall_mem_cons.mpr ⟨.inr ⟨rfl, by simp⟩, fun c member => ?_⟩
      rw [List.eq_of_mem_replicate member]
      exact .inl (by decide)

theorem separator_allowed (depth : Nat) : ∀ c ∈ layout.separator depth, layout.Allows c := by
  cases layout with
  | line =>
      rw [Layout.separator]
      exact allowed_of_isInk (by simp [IsInk])
  | indented width =>
      exact List.forall_mem_cons.mpr ⟨.inl (by decide), lineBreak_allowed depth⟩

theorem writtenText_allowed (text : Text) : ∀ c ∈ writtenText text, layout.Allows c :=
  allowed_of_isInk (writtenText_isInk text)

theorem writtenItems_allowed {depth : Nat} {items : List Json}
    (allowed : ∀ item ∈ items, ∀ c ∈ written layout depth item, layout.Allows c) :
    ∀ c ∈ writtenItems layout depth items, layout.Allows c := by
  induction items with
  | nil => simp [writtenItems]
  | cons item items ih =>
      obtain ⟨item_allowed, items_allowed⟩ := List.forall_mem_cons.mp allowed
      rw [writtenItems, List.forall_mem_append, List.forall_mem_append]
      exact ⟨⟨separator_allowed depth, item_allowed⟩, ih items_allowed⟩

theorem writtenMembers_allowed {depth : Nat} {members : List (Text × Json)}
    (allowed : ∀ entry ∈ members, ∀ c ∈ written layout depth entry.2, layout.Allows c) :
    ∀ c ∈ writtenMembers layout depth members, layout.Allows c := by
  induction members with
  | nil => simp [writtenMembers]
  | cons entry members ih =>
      obtain ⟨entry_allowed, members_allowed⟩ := List.forall_mem_cons.mp allowed
      simp only [writtenMembers, List.forall_mem_append]
      exact ⟨⟨⟨⟨separator_allowed depth, writtenText_allowed entry.1⟩,
        allowed_of_isInk (by simp [IsInk])⟩, entry_allowed⟩, ih members_allowed⟩

/-- A plain value is written in the characters that its layout allows. -/
theorem Plain.allowed {value : Json} (plain : value.Plain) (depth : Nat) :
    ∀ c ∈ written layout depth value, layout.Allows c := by
  induction plain generalizing depth with
  | null =>
      rw [written]
      exact allowed_of_isInk (by simp [IsInk])
  | @boolean value =>
      rw [written]
      cases value <;> exact allowed_of_isInk (by simp [IsInk])
  | @integer value short => exact allowed_of_isInk (intNumeral_isInk value)
  | @string text => exact writtenText_allowed text
  | @array items items_plain ih =>
      cases items with
      | nil =>
          rw [written]
          exact allowed_of_isInk (by simp [IsInk])
      | cons item items =>
          obtain ⟨item_allowed, items_allowed⟩ := List.forall_mem_cons.mp ih
          simp only [written, List.forall_mem_append, List.forall_mem_cons]
          exact ⟨⟨⟨⟨⟨.inl (by decide), lineBreak_allowed _⟩, item_allowed _⟩,
            writtenItems_allowed fun item member => items_allowed item member _⟩,
            lineBreak_allowed _⟩, .inl (by decide), by simp⟩
  | @object members names_nodup values_plain ih =>
      cases members with
      | nil =>
          rw [written]
          exact allowed_of_isInk (by simp [IsInk])
      | cons entry members =>
          obtain ⟨entry_allowed, members_allowed⟩ := List.forall_mem_cons.mp ih
          simp only [written, List.forall_mem_append]
          exact ⟨⟨⟨⟨⟨⟨List.forall_mem_cons.mpr ⟨.inl (by decide), lineBreak_allowed _⟩,
            writtenText_allowed entry.1⟩, allowed_of_isInk (by simp [IsInk])⟩, entry_allowed _⟩,
            writtenMembers_allowed fun entry member => members_allowed entry member _⟩,
            lineBreak_allowed _⟩, allowed_of_isInk (by simp [IsInk])⟩

end Json
end RobotCity
