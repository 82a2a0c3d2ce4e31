import Mathlib.Algebra.Order.Field.Power
import Mathlib.Data.Rat.Cast.Order
import Mathlib.Tactic.FieldSimp
import Mathlib.Tactic.NormNum
import Mathlib.Tactic.Ring
import RobotCity.Binary64
import RobotCity.Proofs.Numerals

/-!
# Doubles that decimals give

Whatever decimal is rounded, its double keeps to the mantissas and the exponents of double precision; what
is left of it without its fraction is an integer of few digits.
-/

namespace RobotCity
namespace Binary64

/-- A double that double precision has. -/
inductive InRange : Binary64 → Prop
  | nan : InRange .nan
  | infinite {negative : Bool} : InRange (.infinite negative)
  | finite {negative : Bool} {mantissa : Nat} {exponent : Int} : mantissa < 2 ^ 53 →
    minExponent ≤ exponent → exponent ≤ maxExponent → InRange (.finite negative mantissa exponent)

theorem zero_inRange (negative : Bool) : (zero negative).InRange :=
  .finite (by decide) (Int.le_refl _) (by decide)

section Quotients

variable {numerator denominator : Nat}

theorem scale_pos (positive : 0 < denominator) (exponent : Int) :
    0 < (scale numerator denominator exponent).2 := by
  rw [scale]
  split
  · exact positive
  · exact Nat.mul_pos positive (Nat.two_pow_pos _)

/-- A scaled quotient is the quotient multiplied by the power of two. -/
theorem scale_quotient (numerator denominator : Nat) (exponent : Int) :
    ((scale numerator denominator exponent).1 : ℚ) / (scale numerator denominator exponent).2 =
      numerator / denominator * 2 ^ exponent := by
  rw [scale]
  split
  · rename_i upwards
    obtain ⟨power, rfl⟩ := Int.eq_ofNat_of_zero_le upwards
    simp only [Int.toNat_natCast, Nat.pow_eq, Nat.cast_mul, Nat.cast_pow,
      Nat.cast_ofNat, zpow_natCast]
    ring
  · rename_i downwards
    obtain ⟨power, negated⟩ := Int.eq_ofNat_of_zero_le (show 0 ≤ -exponent by omega)
    obtain rfl : exponent = -(power : Int) := by omega
    simp only [neg_neg, Int.toNat_natCast, Nat.pow_eq, Nat.cast_mul, Nat.cast_pow, Nat.cast_ofNat,
      zpow_neg, zpow_natCast]
    field_simp

theorem quotient_lt_of_lt_mul (positive : 0 < denominator) {bound : Nat} :
    numerator < bound * denominator ↔ (numerator : ℚ) / denominator < bound := by
  rw [div_lt_iff₀ (by exact_mod_cast positive)]
  exact_mod_cast Iff.rfl

/-- A quotient stays below twice the power of two at its leading bit. -/
theorem quotient_lt_two_pow (positive : 0 < denominator) :
    (numerator : ℚ) / denominator < 2 ^ (leadingExponent numerator denominator + 1) := by
  let guess : Int := numerator.log2 - denominator.log2
  have denominator_pos : (0 : ℚ) < denominator := by exact_mod_cast positive
  have guessed : (numerator : ℚ) / denominator < 2 ^ (guess + 1) := by
    have above : (numerator : ℚ) < 2 ^ (numerator.log2 + 1) := by exact_mod_cast Nat.lt_log2_self
    have below : (2 : ℚ) ^ denominator.log2 ≤ denominator := by
      exact_mod_cast Nat.log2_self_le positive.ne'
    calc (numerator : ℚ) / denominator
        < 2 ^ (numerator.log2 + 1) / denominator := by gcongr
      _ ≤ 2 ^ (numerator.log2 + 1) / 2 ^ denominator.log2 := by gcongr
      _ = 2 ^ (guess + 1) := by
        rw [← zpow_natCast, ← zpow_natCast, ← zpow_sub₀ (by norm_num)]
        congr 1
        push_cast
        ring
  rw [leadingExponent]
  split
  · exact guessed
  · rename_i smaller
    have scaled_pos : (0 : ℚ) < (scale numerator denominator (-guess)).2 := by
      exact_mod_cast scale_pos positive _
    have scaled : ((scale numerator denominator (-guess)).1 : ℚ) /
        (scale numerator denominator (-guess)).2 < 1 :=
      (div_lt_one₀ scaled_pos).mpr (Nat.cast_lt.mpr (Nat.lt_of_not_le smaller))
    rw [scale_quotient, zpow_neg, ← div_eq_mul_inv, div_lt_iff₀ (by positivity)] at scaled
    simpa using scaled

theorem roundQuotient_le {bound : Nat} (below : numerator < bound * denominator) :
    roundQuotient numerator denominator ≤ bound := by
  have quotient_lt : numerator / denominator < bound :=
    Nat.div_lt_of_lt_mul (Nat.mul_comm bound denominator ▸ below)
  rw [roundQuotient]
  split_ifs <;> omega

theorem ofQuotient_inRange (negative : Bool) (positive : 0 < denominator) :
    (ofQuotient negative numerator denominator).InRange := by
  let exponent := max (leadingExponent numerator denominator - 52) minExponent
  have least : minExponent ≤ exponent := Int.le_max_right _ _
  have leading : leadingExponent numerator denominator - 52 ≤ exponent := Int.le_max_left _ _
  have mantissa_le : roundQuotient (scale numerator denominator (-exponent)).1
      (scale numerator denominator (-exponent)).2 ≤ 2 ^ 53 := by
    refine roundQuotient_le ((quotient_lt_of_lt_mul (scale_pos positive _)).mpr ?_)
    rw [scale_quotient]
    calc (numerator : ℚ) / denominator * 2 ^ (-exponent)
        < 2 ^ (leadingExponent numerator denominator + 1) * 2 ^ (-exponent) := by
          gcongr
          exact quotient_lt_two_pow positive
      _ = 2 ^ (leadingExponent numerator denominator + 1 + -exponent) :=
          (zpow_add₀ (by norm_num) _ _).symm
      _ ≤ 2 ^ (53 : Int) := zpow_le_zpow_right₀ (by norm_num) (by omega)
      _ = (2 ^ 53 : Nat) := by norm_num
  rw [ofQuotient]
  split_ifs with carries is_zero too_large is_zero too_large
  · exact zero_inRange negative
  · exact .infinite
  · exact .finite (Nat.pow_lt_pow_right (by decide) (by decide)) (Int.le_add_one least) (Int.not_lt.mp too_large)
  · exact zero_inRange negative
  · exact .infinite
  · exact .finite (Nat.lt_of_le_of_ne mantissa_le carries) least (Int.not_lt.mp too_large)

end Quotients

/-- A decimal is rounded to a double that double precision has. -/
theorem ofDecimal_inRange (negative : Bool) (digits : Nat) (exponent : Int) :
    (ofDecimal negative digits exponent).InRange := by
  rw [ofDecimal]
  dsimp only
  split_ifs
  · exact zero_inRange negative
  · exact .infinite
  · exact zero_inRange negative
  · exact ofQuotient_inRange negative Nat.one_pos
  · exact ofQuotient_inRange negative (Nat.pow_pos (by decide))

/-- What is left of a double without its fraction is short. -/
theorem truncated_short {negative : Bool} {mantissa : Nat} {exponent : Int}
    (in_range : (finite negative mantissa exponent).InRange) :
    Text.IsShort (truncated negative mantissa exponent) := by
  cases in_range with
  | finite mantissa_lt least greatest =>
      have scaled_lt : (scale mantissa 1 exponent).1 < 2 ^ 53 * 2 ^ maxExponent.toNat := by
        rw [scale]
        split
        · have power_le : exponent.toNat ≤ maxExponent.toNat := Int.toNat_le_toNat greatest
          calc mantissa * 2 ^ exponent.toNat
              < 2 ^ 53 * 2 ^ exponent.toNat := by gcongr
            _ ≤ 2 ^ 53 * 2 ^ maxExponent.toNat := by gcongr; decide
        · exact Nat.lt_of_lt_of_le mantissa_lt (Nat.le_mul_of_pos_right _ (Nat.two_pow_pos _))
      have size : (truncated negative mantissa exponent).natAbs =
          (scale mantissa 1 exponent).1 / (scale mantissa 1 exponent).2 := by
        rw [truncated]
        cases negative with
        | false => exact Int.natAbs_natCast _
        | true => exact (Int.natAbs_neg _).trans (Int.natAbs_natCast _)
      rw [Text.isShort_iff, size]
      exact Nat.lt_of_le_of_lt (Nat.div_le_self _ _)
        (Nat.lt_trans scaled_lt (by decide +kernel))

end Binary64
end RobotCity
