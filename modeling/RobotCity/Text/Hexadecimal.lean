/-!
# Hexadecimal numerals

Code points and code units are written in lower-case hexadecimal digits, filled with zeros to a
width.
-/

namespace RobotCity
namespace Text

/-- The hexadecimal numeral of a number, filled with zeros to a width. -/
def hexNumeral (width number : Nat) : List Char :=
  let digits := Nat.toDigits 16 number
  List.replicate (width - digits.length) '0' ++ digits

/-- The escape of a code unit by its number. -/
def unitEscape (unit : UInt16) : List Char :=
  '\\' :: 'u' :: hexNumeral 4 unit.toNat

end Text
end RobotCity
