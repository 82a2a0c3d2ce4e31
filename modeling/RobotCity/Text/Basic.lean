import RobotCity.Text.Hexadecimal

/-!
# Texts

The texts of a document are sequences of 16-bit code units.  A character takes one unit, or two that
form a surrogate pair.  A document may also hold half of a pair alone: it is no character, but it is
kept and told from every other half.
-/

namespace RobotCity

/-- A text of a document. -/
structure Text where
  units : List UInt16
  deriving DecidableEq, Repr

namespace Text

/-- The first half of the surrogate pair of a code point. -/
def highHalf (code : Nat) : UInt16 :=
  .ofNat (0xd800 + (code - 0x10000) / 0x400)

/-- The second half of the surrogate pair of a code point. -/
def lowHalf (code : Nat) : UInt16 :=
  .ofNat (0xdc00 + (code - 0x10000) % 0x400)

/-- The code units of a character. -/
def charUnits (c : Char) : List UInt16 :=
  if c.toNat < 0x10000 then [.ofNat c.toNat] else [highHalf c.toNat, lowHalf c.toNat]

/-- The text that consists of characters. -/
def ofChars (chars : List Char) : Text :=
  ⟨chars.flatMap charUnits⟩

/-- The text of a string. -/
def ofString (string : String) : Text :=
  ofChars string.toList

instance : Coe String Text := ⟨ofString⟩

/-- The text without code units. -/
def empty : Text := ⟨[]⟩

/-- Whether a text has no code units. -/
def isEmpty (text : Text) : Bool :=
  text.units.isEmpty

/-- Whether a code unit is the first half of a surrogate pair. -/
def isHighHalf (unit : UInt16) : Bool :=
  0xd800 ≤ unit.toNat && unit.toNat < 0xdc00

/-- Whether a code unit is the second half of a surrogate pair. -/
def isLowHalf (unit : UInt16) : Bool :=
  0xdc00 ≤ unit.toNat && unit.toNat < 0xe000

/-- The character of a surrogate pair. -/
def pairChar (high low : UInt16) : Char :=
  .ofNat (0x10000 + (high.toNat - 0xd800) * 0x400 + (low.toNat - 0xdc00))

/-- A letter of a text. -/
inductive Letter where
  | char (c : Char)
  /-- Half of a surrogate pair that stands alone. -/
  | half (unit : UInt16)
  deriving DecidableEq, Repr

/-- The letter of a code unit that belongs to no surrogate pair. -/
def singleLetter (unit : UInt16) : Letter :=
  if isHighHalf unit || isLowHalf unit then .half unit else .char (.ofNat unit.toNat)

/-- The letters of code units. -/
def lettersOf : List UInt16 → List Letter
  | [] => []
  | [unit] => [singleLetter unit]
  | high :: low :: rest =>
    if isHighHalf high && isLowHalf low then .char (pairChar high low) :: lettersOf rest
    else singleLetter high :: lettersOf (low :: rest)

/-- The letters of a text. -/
def letters (text : Text) : List Letter :=
  lettersOf text.units

theorem toNat_valid (c : Char) : c.toNat < 0xd800 ∨ 0xdfff < c.toNat ∧ c.toNat < 0x110000 :=
  c.valid

theorem lettersOf_charUnits_append (c : Char) (units : List UInt16) :
    lettersOf (charUnits c ++ units) = .char c :: lettersOf units := by
  have valid := toNat_valid c
  unfold charUnits
  split
  · rename_i small
    have size : (UInt16.ofNat c.toNat).toNat = c.toNat := UInt16.toNat_ofNat_of_lt small
    have high : isHighHalf (.ofNat c.toNat) = false := by
      simp [isHighHalf, size]
      omega
    have low : isLowHalf (.ofNat c.toNat) = false := by
      simp [isLowHalf, size]
      omega
    have single : singleLetter (.ofNat c.toNat) = .char c := by
      simp [singleLetter, high, low, size, Char.ofNat_toNat]
    cases units <;> simp [lettersOf, high, single]
  · rename_i large
    have highSize : (highHalf c.toNat).toNat = 0xd800 + (c.toNat - 0x10000) / 0x400 :=
      UInt16.toNat_ofNat_of_lt (by simp only [UInt16.size]; omega)
    have lowSize : (lowHalf c.toNat).toNat = 0xdc00 + (c.toNat - 0x10000) % 0x400 :=
      UInt16.toNat_ofNat_of_lt (by simp only [UInt16.size]; omega)
    have high : isHighHalf (highHalf c.toNat) = true := by
      simp [isHighHalf, highSize]
      omega
    have low : isLowHalf (lowHalf c.toNat) = true := by
      simp [isLowHalf, lowSize]
      omega
    have code : 0x10000 + (c.toNat - 0x10000) / 0x400 * 0x400 + (c.toNat - 0x10000) % 0x400 =
        c.toNat := by omega
    simp [lettersOf, high, low, pairChar, highSize, lowSize, code, Char.ofNat_toNat]

@[simp]
theorem letters_ofChars (chars : List Char) : (ofChars chars).letters = chars.map .char := by
  induction chars with
  | nil => rfl
  | cons c rest ih =>
    simpa [letters, ofChars, lettersOf_charUnits_append] using ih

@[simp]
theorem ofChars_inj {chars others : List Char} : ofChars chars = ofChars others ↔ chars = others := by
  constructor
  · intro same
    have letters := congrArg Text.letters same
    rw [letters_ofChars, letters_ofChars] at letters
    exact (List.map_inj_right (by simp)).mp letters
  · exact congrArg ofChars

@[simp]
theorem ofString_inj {string other : String} : ofString string = ofString other ↔ string = other := by
  simp [ofString, String.toList_inj]

/-- The text of a letter alone. -/
def Letter.text : Letter → Text
  | .char c => ofChars [c]
  | .half unit => ⟨[unit]⟩

/-- A letter outside of quotes: half of a surrogate pair is shown by its escape. -/
def Letter.shown : Letter → List Char
  | .char c => [c]
  | .half unit => unitEscape unit

/-- A text as it is shown outside of quotes. -/
def shown (text : Text) : String :=
  String.ofList (text.letters.flatMap Letter.shown)

instance : ToString Text := ⟨shown⟩

@[simp]
theorem shown_ofString (string : String) : (ofString string).shown = string := by
  simp [shown, ofString, List.flatMap_map, Letter.shown]

end Text
end RobotCity
