import Mathlib.Data.List.Basic
import RobotCity.Json.Printer
import RobotCity.Json.Token
import RobotCity.Proofs.Numerals

/-!
# Tokens of written values

A written numeral, text or word is cut off as one token that holds what was written, whatever
stands behind it.  A numeral alone could go on, so that behind it a value has to end.
-/

namespace RobotCity

namespace Text

theorem hexNumeral_add_two (width number : Nat) :
    hexNumeral (width + 2) number =
      hexNumeral (width + 1) (number / 16) ++ [Nat.digitChar (number % 16)] := by
  rw [hexNumeral, hexNumeral]
  rcases Nat.lt_or_ge number 16 with small | large
  · rw [Nat.div_eq_of_lt small, Nat.mod_eq_of_lt small, Nat.toDigits_of_lt_base small]
    simp [List.replicate_succ']
  · rw [Nat.toDigits_of_base_le (by decide) large]
    simp

theorem hexNumeral_four {number : Nat} (bound : number < 0x10000) :
    hexNumeral 4 number =
      [ Nat.digitChar (number / 16 / 16 / 16), Nat.digitChar (number / 16 / 16 % 16)
      , Nat.digitChar (number / 16 % 16), Nat.digitChar (number % 16) ] := by
  have first : number / 16 / 16 / 16 < 16 := by omega
  rw [hexNumeral_add_two, hexNumeral_add_two, hexNumeral_add_two, hexNumeral,
    Nat.toDigits_of_lt_base first]
  rfl

end Text

namespace Json

theorem hexDigit?_digitChar {digit : Nat} (bound : digit < 0x10) :
    hexDigit? (Nat.digitChar digit) = some digit := by
  revert digit
  decide

theorem hexUnit?_hexNumeral (unit : UInt16) :
    ∃ a b c d, Text.hexNumeral 4 unit.toNat = [a, b, c, d] ∧ hexUnit? a b c d = some unit := by
  have bound : unit.toNat < 0x10000 := unit.toNat_lt
  refine ⟨_, _, _, _, Text.hexNumeral_four bound, ?_⟩
  have sum : ((unit.toNat / 16 / 16 / 16 * 16 + unit.toNat / 16 / 16 % 16) * 16 +
      unit.toNat / 16 % 16) * 16 + unit.toNat % 16 = unit.toNat := by
    omega
  rw [hexUnit?, hexDigit?_digitChar (by omega), hexDigit?_digitChar (by omega),
    hexDigit?_digitChar (by omega), hexDigit?_digitChar (by omega)]
  change some (UInt16.ofNat _) = some unit
  rw [sum, UInt16.ofNat_toNat]

/-- A text behind which a value has ended: it is empty, goes on with a separator or closes. -/
def EndsValue (rest : List Char) : Prop :=
  ∀ c ∈ rest.head?, c ∈ [',', '\n', ']', '\x7d']

theorem endsValue_nil : EndsValue [] := by
  simp [EndsValue]

theorem endsValue_cons {c : Char} {rest : List Char} (ends : c ∈ [',', '\n', ']', '\x7d']) :
    EndsValue (c :: rest) := by
  simpa [EndsValue] using ends

section Numbers

variable {rest : List Char}

theorem no_digits_of_ends (ends : EndsValue rest) :
    rest.takeWhile Char.isDigit = [] ∧ rest.dropWhile Char.isDigit = rest := by
  cases rest with
  | nil => exact ⟨rfl, rfl⟩
  | cons c tail =>
      have no_digit : c.isDigit = false := by
        have separator : ∀ c ∈ [',', '\n', ']', '\x7d'], c.isDigit = false := by simp
        exact separator c (ends c rfl)
      simp [no_digit]

theorem scanWhole_natNumeral (number : Nat) (ends : EndsValue rest) :
    scanWhole (Text.natNumeral number ++ rest) = (Text.natNumeral number, rest) := by
  rcases Nat.eq_zero_or_pos number with rfl | positive
  · rfl
  · have nonzero : (Text.natNumeral number ++ rest).head? ≠ some '0' := by
      rw [List.head?_append_of_ne_nil _ (Text.natNumeral_ne_nil number)]
      exact Text.head?_natNumeral_ne_zero (by omega)
    have digits : ∀ c ∈ Text.natNumeral number, Char.isDigit c :=
      fun c member => Text.isDigit_of_mem_natNumeral member
    obtain ⟨no_digits, all_left⟩ := no_digits_of_ends ends
    rw [scanWhole, if_neg nonzero, List.takeWhile_append_of_pos digits,
      List.dropWhile_append_of_pos digits, no_digits, all_left, List.append_nil]

theorem scanFraction_of_ends (ends : EndsValue rest) : scanFraction rest = (none, rest) := by
  cases rest with
  | nil => rfl
  | cons c tail =>
      have other : c ≠ '.' := by
        rintro rfl
        simpa using ends '.' rfl
      simp [scanFraction, other]

theorem scanPower_of_ends (ends : EndsValue rest) : scanPower rest = (none, 0, rest) := by
  cases rest with
  | nil => rfl
  | cons c tail =>
      have other : ¬(c = 'e' ∨ c = 'E') := by
        rintro (rfl | rfl)
        · simpa using ends 'e' rfl
        · simpa using ends 'E' rfl
      simp [scanPower, other]

theorem scanUnsigned?_natNumeral (negative : Bool) (position number : Nat)
    (short : (Text.natNumeral number).length ≤ Text.numeralLimit) (ends : EndsValue rest) :
    ∃ stop, scanUnsigned? negative position (Text.natNumeral number ++ rest) =
      some ⟨.atom (.integer (if negative then -(number : Int) else number)), stop, rest⟩ := by
  have token : NumberText.token ⟨negative, Text.natNumeral number, none, none⟩ =
      .atom (.integer (if negative then -(number : Int) else number)) := by
    rw [NumberText.token]
    dsimp only
    rw [if_neg (Nat.not_lt.mpr short), Text.numeralValue_natNumeral]
  -- Neither a fraction nor a power of ten takes any characters.
  refine ⟨position + (Text.natNumeral number).length + 0 + 0, ?_⟩
  rw [scanUnsigned?, scanWhole_natNumeral number ends]
  dsimp only
  rw [scanFraction_of_ends ends]
  dsimp only
  rw [scanPower_of_ends ends]
  dsimp only
  rw [if_neg (Text.natNumeral_ne_nil number), token]
  rfl

theorem scanNumber?_intNumeral (position : Nat) {value : Int} (short : Text.IsShort value)
    (ends : EndsValue rest) :
    ∃ stop, scanNumber? position (Text.intNumeral value ++ rest) =
      some ⟨.atom (.integer value), stop, rest⟩ := by
  cases value with
  | ofNat number =>
      have unsigned : (Text.natNumeral number ++ rest).head? ≠ some '-' := by
        rw [List.head?_append_of_ne_nil _ (Text.natNumeral_ne_nil number)]
        intro minus
        have digit := Text.isDigit_of_mem_natNumeral (List.mem_of_head? minus)
        simp at digit
      rw [Text.intNumeral, scanNumber?, if_neg unsigned]
      exact scanUnsigned?_natNumeral false position number short ends
  | negSucc number =>
      exact scanUnsigned?_natNumeral true (position + 1) (number + 1) short ends

end Numbers

theorem escaped?_escapeLetter {unit : UInt16} {letter : Char}
    (escape : escapeLetter? unit = some letter) :
    letter ≠ 'u' ∧ ∃ c, escaped? letter = some c ∧ Text.charUnits c = [unit] := by
  simp only [escapeLetter?] at escape
  split_ifs at escape with found found found found found found found
  all_goals
    cases escape
    rw [found]
    exact ⟨by decide, _, rfl, rfl⟩

theorem toNat_ofNat_plain {unit : UInt16} (plain : 0x20 ≤ unit && unit ≤ 0x7e) :
    (Char.ofNat unit.toNat).toNat = unit.toNat ∧ 0x20 ≤ unit.toNat ∧ unit.toNat ≤ 0x7e := by
  simp only [Bool.and_eq_true, decide_eq_true_eq, UInt16.le_iff_toNat_le] at plain
  have bounds : 0x20 ≤ unit.toNat ∧ unit.toNat ≤ 0x7e := plain
  rw [Char.ofNat, dif_pos (.inl (by omega))]
  exact ⟨rfl, bounds⟩

theorem scanUnits_plain (start position : Nat) {unit : UInt16} (input : List Char)
    (escape : escapeLetter? unit = none) (plain : 0x20 ≤ unit && unit ≤ 0x7e) :
    scanUnits start position (.ofNat unit.toNat :: input) =
      (scanUnits start (position + 1) input).map (·.push [unit]) := by
  obtain ⟨code, low, high⟩ := toNat_ofNat_plain plain
  generalize Char.ofNat unit.toNat = c at code ⊢
  have same : UInt16.ofNat c.toNat = unit := by rw [code, UInt16.ofNat_toNat]
  have units : Text.charUnits c = [unit] := by
    rw [Text.charUnits, if_pos (by omega), same]
  have quote : c ≠ '"' := by
    rintro rfl
    rw [← same] at escape
    cases escape
  have backslash : c ≠ '\\' := by
    rintro rfl
    rw [← same] at escape
    cases escape
  have ink : ¬c < ' ' := by
    rw [Char.lt_def, UInt32.lt_iff_toNat_lt]
    change ¬c.toNat < 0x20
    omega
  rw [scanUnits, if_neg ink, units]
  · exact quote
  all_goals simp [backslash]

/-- A written code unit is taken off the front of a text.  Something has to stand behind it, since
an escape by number is refused at the end of the input. -/
theorem scanUnits_unit (start position : Nat) (unit : UInt16) (input : List Char)
    (more : input ≠ []) :
    ∃ stop, scanUnits start position (writtenUnit unit ++ input) =
      (scanUnits start stop input).map (·.push [unit]) := by
  rw [writtenUnit]
  cases escape : escapeLetter? unit with
  | some letter =>
      refine ⟨position + 2, ?_⟩
      obtain ⟨single, c, unescape, units⟩ := escaped?_escapeLetter escape
      simp [scanUnits, single, unescape, units]
  | none =>
      dsimp only
      split
      · rename_i plain
        exact ⟨position + 1, scanUnits_plain start position input escape plain⟩
      · obtain ⟨a, b, c, d, digits, read⟩ := hexUnit?_hexNumeral unit
        refine ⟨position + 6, ?_⟩
        rw [Text.unitEscape, digits]
        simp [scanUnits, read, more]

theorem scanUnits_written (start position : Nat) (units : List UInt16) (rest : List Char) :
    ∃ stop, scanUnits start position (units.flatMap writtenUnit ++ '"' :: rest) =
      .ok ⟨units, stop, rest⟩ := by
  induction units generalizing position with
  | nil => exact ⟨position + 1, rfl⟩
  | cons unit units ih =>
      rw [List.flatMap_cons, List.append_assoc]
      obtain ⟨next, step⟩ := scanUnits_unit start position unit
        (units.flatMap writtenUnit ++ '"' :: rest) (by simp)
      obtain ⟨stop, read⟩ := ih next
      rw [step, read]
      exact ⟨stop, rfl⟩

/-- The characters in front of a text make one token, wherever they stand. -/
def Makes (front : List Char) (token : Token) (rest : List Char) : Prop :=
  ∀ position, ∃ stop, lexemes position (front ++ rest) = ⟨token, position⟩ :: lexemes stop rest

theorem lexemes_space (position : Nat) {c : Char} (rest : List Char) (space : isSpace c) :
    lexemes position (c :: rest) = lexemes (position + 1) rest := by
  rw [lexemes, if_pos space]

theorem lexemes_token {position stop : Nat} {c : Char} {input rest : List Char} {token : Token}
    (ink : isSpace c = false) (scanned : scanToken position c input = ⟨token, stop, rest⟩) :
    lexemes position (c :: input) = ⟨token, position⟩ :: lexemes stop rest := by
  rw [lexemes, if_neg (by simp [ink]), scanned]

theorem makes_mark {c : Char} {token : Token} (rest : List Char) (ink : isSpace c = false)
    (mark : punctuation? c = some token) : Makes [c] token rest := by
  intro position
  refine ⟨position + 1, lexemes_token ink ?_⟩
  rw [scanToken, mark]
  rfl

theorem makes_text (text : Text) (rest : List Char) :
    Makes (writtenText text) (.text text) rest := by
  intro position
  obtain ⟨stop, read⟩ := scanUnits_written position (position + 1) text.units rest
  refine ⟨stop, ?_⟩
  rw [writtenText, List.append_assoc]
  refine lexemes_token rfl ?_
  change scanText position (text.units.flatMap writtenUnit ++ '"' :: rest) = _
  rw [scanText, read]

section Atoms

variable {layout : Layout} {depth : Nat}

theorem makes_null (rest : List Char) : Makes (written layout depth .null) (.atom .null) rest :=
  fun position => ⟨position + 4, lexemes_token rfl rfl⟩

theorem makes_boolean (value : Bool) (rest : List Char) :
    Makes (written layout depth (.boolean value)) (.atom (.boolean value)) rest := by
  intro position
  cases value with
  | false => exact ⟨position + 5, lexemes_token rfl rfl⟩
  | true => exact ⟨position + 4, lexemes_token rfl rfl⟩

end Atoms

theorem ne_of_isDigit {c other : Char} (digit : c.isDigit) (is_other : other.isDigit = false) :
    c ≠ other := by
  rintro rfl
  simp [digit] at is_other

/-- The characters with which a number starts, and no other token. -/
structure OpensNumber (c : Char) (rest : List Char) : Prop where
  ink : isSpace c = false
  no_mark : punctuation? c = none
  no_text : c ≠ '"'
  no_word : ∀ position, scanWord? position (c :: rest) = none

theorem opensNumber_digit {c : Char} (rest : List Char) (digit : c.isDigit) :
    OpensNumber c rest := by
  have other {mark : Char} (is_other : mark.isDigit = false) : (c = mark) = False :=
    eq_false (ne_of_isDigit digit is_other)
  have letter {mark : Char} (is_other : mark.isDigit = false) : (mark = c) = False :=
    eq_false (ne_of_isDigit digit is_other).symm
  constructor
  · simp [isSpace, other]
  · simp [punctuation?, other]
  · exact ne_of_isDigit digit rfl
  · intro position
    simp [scanWord?, words, dropWord?, letter]

theorem opensNumber_minus {c : Char} (rest : List Char) (digit : c.isDigit) :
    OpensNumber '-' (c :: rest) := by
  have letter : 'I' ≠ c := (ne_of_isDigit digit rfl).symm
  refine ⟨rfl, rfl, by decide, fun position => ?_⟩
  simp [scanWord?, words, dropWord?, letter]

theorem exists_opensNumber (value : Int) (rest : List Char) :
    ∃ c input, Text.intNumeral value ++ rest = c :: input ∧ OpensNumber c input := by
  have digits (number : Nat) : ∃ c tail, Text.natNumeral number = c :: tail ∧ c.isDigit := by
    obtain ⟨c, tail, front⟩ := List.exists_cons_of_ne_nil (Text.natNumeral_ne_nil number)
    exact ⟨c, tail, front, Text.isDigit_of_mem_natNumeral (front ▸ List.mem_cons_self)⟩
  cases value with
  | ofNat number =>
      obtain ⟨c, tail, front, digit⟩ := digits number
      rw [Text.intNumeral, front]
      exact ⟨c, tail ++ rest, rfl, opensNumber_digit _ digit⟩
  | negSucc number =>
      obtain ⟨c, tail, front, digit⟩ := digits (number + 1)
      rw [Text.intNumeral, front]
      exact ⟨'-', c :: (tail ++ rest), rfl, opensNumber_minus _ digit⟩

/-- Without an end behind it, a numeral could go on as a longer number. -/
theorem makes_integer {value : Int} {rest : List Char} (short : Text.IsShort value)
    (ends : EndsValue rest) : Makes (Text.intNumeral value) (.atom (.integer value)) rest := by
  intro position
  obtain ⟨stop, read⟩ := scanNumber?_intNumeral position short ends
  obtain ⟨c, input, front, opens⟩ := exists_opensNumber value rest
  refine ⟨stop, ?_⟩
  rw [front] at read ⊢
  refine lexemes_token opens.ink ?_
  rw [scanToken, opens.no_mark]
  dsimp only
  rw [if_neg opens.no_text, opens.no_word]
  dsimp only
  rw [read, Option.getD_some]

end Json
end RobotCity
