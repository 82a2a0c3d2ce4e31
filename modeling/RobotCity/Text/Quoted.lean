import RobotCity.Text.Basic
import RobotCity.Text.Printable

/-!
# Quoted texts

A quoted text stands between single quotes, or between double quotes if it holds single quotes and
no double ones.  The quote and the backslash are escaped by a backslash, and what is not printable,
half of a surrogate pair included, is written as an escape of its own or by its number.
-/

namespace RobotCity
namespace Text

/-- The quote in which a text is enclosed. -/
def quoteFor (text : Text) : Char :=
  if text.letters.contains (.char '\'') && !text.letters.contains (.char '"') then '"' else '\''

/-- A character as it stands between two quotes. -/
def quotedChar (quote c : Char) : List Char :=
  if c = quote || c = '\\' then ['\\', c]
  else if c = '\n' then ['\\', 'n']
  else if c = '\r' then ['\\', 'r']
  else if c = '\t' then ['\\', 't']
  else if isPrintable c then [c]
  else if c.toNat ≤ 0xff then '\\' :: 'x' :: hexNumeral 2 c.toNat
  else if c.toNat ≤ 0xffff then '\\' :: 'u' :: hexNumeral 4 c.toNat
  else '\\' :: 'U' :: hexNumeral 8 c.toNat

/-- A letter as it stands between two quotes. -/
def Letter.quoted (quote : Char) : Letter → List Char
  | .char c => quotedChar quote c
  | .half unit => unitEscape unit

/-- A text in quotes. -/
def quoted (text : Text) : List Char :=
  let quote := quoteFor text
  quote :: text.letters.flatMap (Letter.quoted quote) ++ [quote]

/-- A string in quotes. -/
def quotedString (string : String) : String :=
  String.ofList (ofString string).quoted

end Text
end RobotCity
