import RobotCity.Binary64

/-!
# Shortest decimals

The text of a double has the fewest digits that read back as the same double, and of those the
digits nearest to it.  Digits are looked for on the decimal grids of one, two, up to seventeen
digits, as the two neighbours of the number on the grid; the first grid with a neighbour inside
the interval of numbers that round to the double decides.
-/

namespace RobotCity
namespace Binary64

/-- The positive numbers that round to one double, all in units of a quarter of the spacing of
doubles at that place. -/
structure RoundingInterval where
  /-- The double itself. -/
  value : Nat
  /-- The least number of the interval. -/
  low : Nat
  /-- The greatest number of the interval. -/
  high : Nat
  /-- Whether the two ends belong to the interval. -/
  closed : Bool
  /-- The binary exponent of the unit. -/
  exponent : Int

/-- The interval of numbers that round to a positive double.  Below a power of two the doubles are
twice as dense. -/
def roundingInterval (mantissa : Nat) (exponent : Int) : RoundingInterval :=
  let atPower := mantissa = Nat.pow 2 52 ∧ minExponent < exponent
  { value := 4 * mantissa
    low := 4 * mantissa - if atPower then 1 else 2
    high := 4 * mantissa + 2
    closed := mantissa % 2 = 0
    exponent := exponent - 2 }

namespace RoundingInterval

/-- Compare `number * 2 ^ exponent` with `digits * 10 ^ place`. -/
def compareDecimal (number : Nat) (exponent : Int) (digits : Nat) (place : Int) : Ordering :=
  compare
    (number * Nat.pow 2 exponent.toNat * Nat.pow 10 (-place).toNat)
    (digits * Nat.pow 10 place.toNat * Nat.pow 2 (-exponent).toNat)

/-- Whether `digits * 10 ^ place` lies in the interval. -/
def contains (interval : RoundingInterval) (digits : Nat) (place : Int) : Bool :=
  let fromLow := compareDecimal interval.low interval.exponent digits place
  let toHigh := compareDecimal interval.high interval.exponent digits place
  if interval.closed then fromLow.isLE && toHigh.isGE
  else fromLow.isLT && toHigh.isGT

/-- The multiple of `10 ^ place` at or below the double. -/
def floorAt (interval : RoundingInterval) (place : Int) : Nat :=
  (interval.value * Nat.pow 2 interval.exponent.toNat * Nat.pow 10 (-place).toNat) /
    (Nat.pow 10 place.toNat * Nat.pow 2 (-interval.exponent).toNat)

/-- The better one of two neighbouring grid points that both read back: the nearer one, or the even
one when both are equally near. -/
def nearer (interval : RoundingInterval) (lower : Nat) (place : Int) : Nat :=
  match compareDecimal (2 * interval.value) interval.exponent (2 * lower + 1) place with
  | .lt => lower
  | .gt => lower + 1
  | .eq => if lower % 2 = 0 then lower else lower + 1

/-- The grid point of one grid that reads back, if there is one. -/
def onGrid? (interval : RoundingInterval) (place : Int) : Option Nat :=
  let lower := interval.floorAt place
  match interval.contains lower place, interval.contains (lower + 1) place with
  | true, true => some (interval.nearer lower place)
  | true, false => some lower
  | false, true => some (lower + 1)
  | false, false => none

/-- Search finer and finer grids, for at most `count` of them. -/
def search (interval : RoundingInterval) : Nat → Int → Nat × Int
  | 0, place => (interval.floorAt place, place)
  | count + 1, place =>
    match interval.onGrid? place with
    | some digits => (digits, place)
    | none => interval.search count (place - 1)

/-- The greatest power of ten that is not above the double. -/
def leadingPlace (interval : RoundingInterval) : Int :=
  let bits : Int := interval.value.log2 + interval.exponent
  let guess := bits * 30103 / 100000 - 1
  if interval.floorAt (guess + 2) ≠ 0 then guess + 2
  else if interval.floorAt (guess + 1) ≠ 0 then guess + 1
  else guess

end RoundingInterval

/-- The shortest digits of a positive double and the power of ten of the last of them. -/
def shortest (mantissa : Nat) (exponent : Int) : Nat × Int :=
  let interval := roundingInterval mantissa exponent
  interval.search 17 interval.leadingPlace

/-- Digits without their trailing zeros. -/
def dropTrailingZeros (digits : List Char) : List Char :=
  (digits.reverse.dropWhile (· == '0')).reverse

/-- Lay out digits so that the point stands after the first `point` of them, filling with zeros. -/
def positional (digits : List Char) (point : Int) : List Char :=
  if point ≤ 0 then
    '0' :: '.' :: List.replicate (-point).toNat '0' ++ digits
  else
    let count := point.toNat
    let whole := digits.take count ++ List.replicate (count - digits.length) '0'
    let fraction := digits.drop count
    whole ++ '.' :: if fraction.isEmpty then ['0'] else fraction

/-- Lay out digits as a mantissa with one digit before the point and a signed exponent of at least
two digits. -/
def scientific (digits : List Char) (point : Int) : List Char :=
  let power := point - 1
  let size := Text.natNumeral power.natAbs
  let fraction := digits.drop 1
  digits.take 1 ++ (if fraction.isEmpty then [] else '.' :: fraction) ++
    'e' :: (if power < 0 then '-' else '+') ::
      (List.replicate (2 - size.length) '0' ++ size)

/-- The text of a finite double without its sign: positional from `0.0001` up to `10 ^ 16`, and
with an exponent outside that range. -/
def magnitudeText (mantissa : Nat) (exponent : Int) : List Char :=
  if mantissa = 0 then ['0', '.', '0']
  else
    let found := shortest mantissa exponent
    let written := Text.natNumeral found.1
    let point : Int := written.length + found.2
    let digits := dropTrailingZeros written
    if -4 < point ∧ point ≤ 16 then positional digits point else scientific digits point

end Binary64
end RobotCity
