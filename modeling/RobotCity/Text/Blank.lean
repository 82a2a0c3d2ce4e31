/-!
# Blank characters

The blank characters of Unicode: its separators of words, lines and paragraphs, and the control
characters that move the writing position or separate records.
-/

namespace RobotCity
namespace Text

/-- Whether a character is blank. -/
def isBlank (c : Char) : Bool :=
  let code := c.toNat
  (0x09 ≤ code && code ≤ 0x0d) || (0x1c ≤ code && code ≤ 0x20) || code == 0x85 || code == 0xa0 ||
    code == 0x1680 || (0x2000 ≤ code && code ≤ 0x200a) || code == 0x2028 || code == 0x2029 ||
    code == 0x202f || code == 0x205f || code == 0x3000

/-- A text without the characters of a kind at its two ends. -/
def stripBy (isDropped : Char → Bool) (text : List Char) : List Char :=
  ((text.dropWhile isDropped).reverse.dropWhile isDropped).reverse

/-- A text without blank characters at its two ends. -/
def strip (text : List Char) : List Char :=
  stripBy isBlank text

end Text
end RobotCity
