import RobotCity.Text.Decimal

/-!
# Double precision numbers

A double is kept as the exact number that it denotes: a sign, a mantissa below `2 ^ 53` and a
binary exponent from -1074 on.  Decimals are rounded to the nearest double, a half to the even
mantissa, and everything here is integer arithmetic.
-/

namespace RobotCity

/-- A double precision number. -/
inductive Binary64 where
  /-- No number. -/
  | nan
  /-- One of the two infinities. -/
  | infinite (negative : Bool)
  /-- The number `mantissa * 2 ^ exponent` with a sign, which zero has too. -/
  | finite (negative : Bool) (mantissa : Nat) (exponent : Int)
  deriving DecidableEq, Repr

namespace Binary64

/-- The least binary exponent. -/
def minExponent : Int := -1074

/-- The greatest binary exponent. -/
def maxExponent : Int := 971

/-- Zero with a sign. -/
def zero (negative : Bool) : Binary64 := .finite negative 0 minExponent

/-- The whole number nearest to a quotient, a half going to the even neighbour. -/
def roundQuotient (numerator denominator : Nat) : Nat :=
  let quotient := numerator / denominator
  let rest := 2 * (numerator % denominator)
  if rest < denominator then quotient
  else if rest = denominator ∧ quotient % 2 = 0 then quotient
  else quotient + 1

/-- A quotient multiplied by a power of two, as numerator and denominator. -/
def scale (numerator denominator : Nat) (exponent : Int) : Nat × Nat :=
  if 0 ≤ exponent then (numerator * Nat.pow 2 exponent.toNat, denominator)
  else (numerator, denominator * Nat.pow 2 (-exponent).toNat)

/-- The binary exponent of the leading bit of a positive quotient. -/
def leadingExponent (numerator denominator : Nat) : Int :=
  let guess : Int := numerator.log2 - denominator.log2
  let scaled := scale numerator denominator (-guess)
  if scaled.2 ≤ scaled.1 then guess else guess - 1

/-- The double nearest to a positive quotient. -/
def ofQuotient (negative : Bool) (numerator denominator : Nat) : Binary64 :=
  let exponent := max (leadingExponent numerator denominator - 52) minExponent
  let scaled := scale numerator denominator (-exponent)
  let mantissa := roundQuotient scaled.1 scaled.2
  let carried :=
    if mantissa = Nat.pow 2 53 then (Nat.pow 2 52, exponent + 1) else (mantissa, exponent)
  if carried.1 = 0 then zero negative
  else if maxExponent < carried.2 then .infinite negative
  else .finite negative carried.1 carried.2

/-- The double nearest to `digits * 10 ^ exponent`.  Numbers far outside the range of doubles are
settled by their size alone, so that no large power is computed for them. -/
def ofDecimal (negative : Bool) (digits : Nat) (exponent : Int) : Binary64 :=
  if digits = 0 then zero negative
  else
    let size := (Text.natNumeral digits).length + exponent
    if 310 < size then .infinite negative
    else if size < -330 then zero negative
    else if 0 ≤ exponent then ofQuotient negative (digits * Nat.pow 10 exponent.toNat) 1
    else ofQuotient negative digits (Nat.pow 10 (-exponent).toNat)

/-- Whether a double is one of the two zeros. -/
def isZero : Binary64 → Bool
  | .finite _ mantissa _ => mantissa == 0
  | _ => false

/-- The integer left when the fraction of a finite double is dropped. -/
def truncated (negative : Bool) (mantissa : Nat) (exponent : Int) : Int :=
  let size := (scale mantissa 1 exponent).1 / (scale mantissa 1 exponent).2
  if negative then -(size : Int) else size

/-- The integer that a double denotes, if it denotes one. -/
def toInt? : Binary64 → Option Int
  | .finite negative mantissa exponent =>
    let scaled := scale mantissa 1 exponent
    if scaled.1 % scaled.2 = 0 then some (truncated negative mantissa exponent) else none
  | _ => none

end Binary64
end RobotCity
