/-!
# Decimal numerals

Numerals are lists of ASCII digits, most significant first.  A numeral is read digit by digit and
written without leading zeros; a sign is one `-` in front.

One limit holds in both directions: a numeral of more digits is not read as an integer, and an integer
of more digits is not shown.  Only counts and positions are shown without it, as they are never that
large.
-/

namespace RobotCity
namespace Text

/-- The most digits of a numeral that is read as an integer, and of one that shows an integer. -/
def numeralLimit : Nat := 4300

/-- The number that a list of digits denotes. -/
def numeralValue (digits : List Char) : Nat :=
  digits.foldl (fun value digit => 10 * value + (digit.toNat - '0'.toNat)) 0

/-- The numeral of a natural number. -/
def natNumeral (number : Nat) : List Char :=
  Nat.toDigits 10 number

/-- The numeral of an integer, however long it is. -/
def intNumeral : Int → List Char
  | .ofNat number => natNumeral number
  | .negSucc number => '-' :: natNumeral (number + 1)

/-- The numeral of a count or a position as text. -/
def natText (number : Nat) : String :=
  String.ofList (natNumeral number)

/-- Whether an integer has few enough digits to be read and shown; its sign is none of them. -/
def IsShort (value : Int) : Prop :=
  (natNumeral value.natAbs).length ≤ numeralLimit

instance (value : Int) : Decidable (IsShort value) :=
  inferInstanceAs (Decidable ((natNumeral value.natAbs).length ≤ numeralLimit))

/-- Why something is not shown. -/
inductive ShowingDefect where
  /-- An integer in it has too many digits. -/
  | longInteger
  deriving DecidableEq, Repr

/-- The wording of a refusal to show something. -/
def ShowingDefect.message : ShowingDefect → String
  | .longInteger =>
    s!"Exceeds the limit ({natText numeralLimit} digits) for integer string conversion; " ++
      "use sys.set_int_max_str_digits() to increase the limit"

/-- The numeral of an integer as text. -/
def showInteger (value : Int) : Except ShowingDefect String :=
  if IsShort value then .ok (String.ofList (intNumeral value)) else .error .longInteger

/-- A text that was to be shown, or why it is not. -/
def wording : Except ShowingDefect String → String
  | .ok text => text
  | .error defect => defect.message

end Text
end RobotCity
