import RobotCity.Text.Basic
import RobotCity.Text.Blank
import RobotCity.Text.Decimal
import RobotCity.Text.Digit

/-!
# Integers as people write them

An integer may stand between blanks, may have a sign, may be written in the digits of any script and
may have single underscores between its digits.
-/

namespace RobotCity
namespace Text

/-- Why a text is not read as an integer. -/
inductive IntegerDefect where
  /-- The text is no integer. -/
  | notInteger
  /-- The integer has too many digits to be converted. -/
  | tooLong (digits : Nat)
  deriving DecidableEq, Repr

/-- A character of an integer in ASCII: digits and blanks of all scripts have one counterpart there,
and any other character makes the text no integer. -/
def asciiChar (c : Char) : Char :=
  if c.toNat < 0x7f then c
  else if isBlank c then ' '
  else
    match digitValue? c with
    | some value => Nat.digitChar value
    | none => '?'

/-- A letter of an integer in ASCII. -/
def Letter.ascii : Letter → Char
  | .char c => asciiChar c
  | .half _ => '?'

/-- Whether an ASCII character may stand in front of an integer or behind it. -/
def isMargin (c : Char) : Bool :=
  c == ' ' || (0x09 ≤ c.toNat && c.toNat ≤ 0x0d)

/-- Whether digits are grouped by single underscores; `afterDigit` tells whether one stands in
front. -/
def isGrouped (afterDigit : Bool) : List Char → Bool
  | [] => afterDigit
  | c :: rest =>
    if c = '_' then afterDigit && isGrouped false rest
    else c.isDigit && isGrouped true rest

/-- Whether a character belongs to grouped digits. -/
def isGroupChar (c : Char) : Bool :=
  c.isDigit || c == '_'

/-- Read an integer behind its sign. -/
def readUnsigned (negative : Bool) (text : List Char) : Except IntegerDefect Int :=
  let group := text.takeWhile isGroupChar
  let digits := group.filter Char.isDigit
  if !isGrouped false group then .error .notInteger
  else if numeralLimit < digits.length then .error (.tooLong digits.length)
  else if (text.dropWhile isGroupChar).all isMargin then
    .ok (if negative then -(numeralValue digits : Int) else numeralValue digits)
  else .error .notInteger

/-- Read an integer. -/
def readInteger (text : Text) : Except IntegerDefect Int :=
  match (text.letters.map Letter.ascii).dropWhile isMargin with
  | '-' :: rest => readUnsigned true rest
  | '+' :: rest => readUnsigned false rest
  | rest => readUnsigned false rest

/-- Cut a text at every occurrence of a character. -/
def splitAt (separator : Char) : List Char → List (List Char)
  | [] => [[]]
  | c :: rest =>
    if c = separator then [] :: splitAt separator rest
    else
      match splitAt separator rest with
      | [] => [[c]]
      | first :: others => (c :: first) :: others

end Text
end RobotCity
