import Mathlib.Data.List.Basic
import Mathlib.Data.List.Induction
import Mathlib.Data.Nat.Digits.Defs
import RobotCity.Text.Decimal

/-!
# Numerals and the integers that they show

The numeral of a number denotes this number.  An integer is short exactly if it is smaller, apart from its
sign, than the power of ten with the exponent of the limit; and it is shown exactly if it is short.
-/

namespace RobotCity
namespace Text

theorem numeralValue_natNumeral (number : Nat) : numeralValue (natNumeral number) = number := by
  rw [numeralValue, ← Nat.ofDigitChars_eq_foldl, natNumeral, Nat.ofDigitChars_ten_toDigits]

theorem isDigit_of_mem_natNumeral {number : Nat} {c : Char} (member : c ∈ natNumeral number) :
    c.isDigit :=
  Nat.isDigit_of_mem_toDigits (by decide) (by decide) member

theorem natNumeral_ne_nil (number : Nat) : natNumeral number ≠ [] :=
  Nat.toDigits_ne_nil

/-- No numeral but that of zero starts with a zero. -/
theorem head?_natNumeral_ne_zero {number : Nat} (nonzero : number ≠ 0) :
    (natNumeral number).head? ≠ some '0' := by
  induction number using Nat.strongRecOn with
  | ind number ih =>
      rw [natNumeral]
      rcases Nat.lt_or_ge number 10 with small | large
      · simpa [Nat.toDigits_of_lt_base small, Nat.digitChar_eq_zero] using nonzero
      · rw [Nat.toDigits_of_base_le (by decide) large,
          List.head?_append_of_ne_nil _ Nat.toDigits_ne_nil]
        exact ih (number / 10) (by omega) (by omega)

theorem numeralValue_lt {digits : List Char} (all_digits : ∀ c ∈ digits, c.isDigit) :
    numeralValue digits < 10 ^ digits.length := by
  induction digits using List.reverseRecOn with
  | nil => decide
  | append_singleton front last ih =>
      obtain ⟨front_digits, last_digit⟩ := List.forall_mem_append.mp all_digits
      have digit_le : last.toNat - '0'.toNat ≤ 9 := by
        have bounds := List.forall_mem_singleton.mp last_digit
        simp only [Char.isDigit, Bool.and_eq_true, decide_eq_true_eq, UInt32.le_iff_toNat_le]
          at bounds
        have high : last.toNat ≤ 57 := bounds.2
        have zero : '0'.toNat = 48 := rfl
        omega
      have before := ih front_digits
      rw [numeralValue] at before ⊢
      rw [List.foldl_append, List.foldl_cons, List.foldl_nil, List.length_append,
        List.length_singleton, Nat.pow_succ]
      omega

/-- An integer is short exactly if its size stays below a power of ten. -/
theorem isShort_iff {value : Int} : IsShort value ↔ value.natAbs < 10 ^ numeralLimit := by
  constructor
  · intro short
    have size_lt : numeralValue (natNumeral value.natAbs) < _ :=
      numeralValue_lt fun _ => isDigit_of_mem_natNumeral
    rw [numeralValue_natNumeral] at size_lt
    exact Nat.lt_of_lt_of_le size_lt (Nat.pow_le_pow_right (by decide) short)
  · exact Nat.toDigits_length 10 _ _ (by decide)

/-- The least integer of 4301 digits. -/
def leastLong : Int := 10 ^ 4300

theorem leastLong_not_short : ¬IsShort leastLong := by
  rw [isShort_iff]
  decide +kernel

/-- What a numeral within the limit denotes is short. -/
theorem isShort_of_numeral {digits : List Char} (all_digits : ∀ c ∈ digits, c.isDigit)
    (fits : digits.length ≤ numeralLimit) (negative : Bool) :
    IsShort (if negative then -(numeralValue digits : Int) else numeralValue digits) := by
  have size : (if negative then -(numeralValue digits : Int) else numeralValue digits).natAbs =
      numeralValue digits := by
    cases negative <;> simp
  rw [isShort_iff, size]
  exact Nat.lt_of_lt_of_le (numeralValue_lt all_digits) (Nat.pow_le_pow_right (by decide) fits)

theorem showInteger_of_short {value : Int} (short : IsShort value) :
    showInteger value = .ok (String.ofList (intNumeral value)) :=
  if_pos short

theorem showInteger_of_long {value : Int} (long : ¬IsShort value) :
    showInteger value = .error .longInteger :=
  if_neg long

end Text
end RobotCity
