import RobotCity.Binary64.Shortest
import RobotCity.Json.Basic
import RobotCity.Text.Quoted

/-!
# Writing JSON

Written JSON is pure ASCII.  It either stands on one line or gives each item and member a line of
its own, indented by its depth; empty arrays and objects stay on one line in both layouts.
A value inside a message is written in a second form, with quoted texts and words of its own.  In
neither form is a value shown that holds an integer of too many digits.
-/

namespace RobotCity
namespace Json

/-- Whether a value can be shown: all integers in it are short enough. -/
def Showable (value : Json) : Prop :=
  ∀ number ∈ value.integers, Text.IsShort number

instance (value : Json) : Decidable value.Showable :=
  inferInstanceAs (Decidable (∀ number ∈ value.integers, Text.IsShort number))

/-- What shows a value as text, unless the value cannot be shown. -/
def shownBy (value : Json) (characters : List Char) : Except Text.ShowingDefect String :=
  if value.Showable then .ok (String.ofList characters) else .error .longInteger

/-- How written JSON is laid out. -/
inductive Layout where
  /-- On one line. -/
  | line
  /-- On lines of their own, indented by a number of spaces per level. -/
  | indented (width : Nat)
  deriving DecidableEq, Repr

/-- The layout with an optional indentation; no spaces stand for one that is not positive. -/
def Layout.ofIndent : Option Int → Layout
  | none => .line
  | some width => .indented width.toNat

/-- What stands in front of an item at a depth. -/
def Layout.lineBreak : Layout → Nat → List Char
  | .line, _ => []
  | .indented width, depth => '\n' :: List.replicate (width * depth) ' '

/-- What stands between two items at a depth. -/
def Layout.separator : Layout → Nat → List Char
  | .line, _ => [',', ' ']
  | .indented width, depth => ',' :: (Layout.indented width).lineBreak depth

/-- The letter that stands for a code unit behind a backslash, if there is one. -/
def escapeLetter? (unit : UInt16) : Option Char :=
  if unit = 0x22 then some '"'
  else if unit = 0x5c then some '\\'
  else if unit = 0x0a then some 'n'
  else if unit = 0x0d then some 'r'
  else if unit = 0x09 then some 't'
  else if unit = 0x08 then some 'b'
  else if unit = 0x0c then some 'f'
  else none

/-- A code unit as it stands in a written text. -/
def writtenUnit (unit : UInt16) : List Char :=
  match escapeLetter? unit with
  | some letter => ['\\', letter]
  | none =>
    if 0x20 ≤ unit && unit ≤ 0x7e then [.ofNat unit.toNat] else Text.unitEscape unit

/-- A written text. -/
def writtenText (text : Text) : List Char :=
  '"' :: text.units.flatMap writtenUnit ++ ['"']

/-- A written double. -/
def writtenFloat : Binary64 → List Char
  | .nan => "NaN".toList
  | .infinite negative => (if negative then ['-'] else []) ++ "Infinity".toList
  | .finite negative mantissa exponent =>
    (if negative then ['-'] else []) ++ Binary64.magnitudeText mantissa exponent

mutual

/-- A written value that stands at a depth. -/
def written (layout : Layout) (depth : Nat) : Json → List Char
  | .null => "null".toList
  | .boolean value => if value then "true".toList else "false".toList
  | .integer value => Text.intNumeral value
  | .float value => writtenFloat value
  | .string text => writtenText text
  | .array [] => ['[', ']']
  | .array (item :: items) =>
    '[' :: layout.lineBreak (depth + 1) ++ written layout (depth + 1) item ++
      writtenItems layout (depth + 1) items ++ layout.lineBreak depth ++ [']']
  | .object [] => ['\x7b', '\x7d']
  | .object ((name, value) :: members) =>
    '\x7b' :: layout.lineBreak (depth + 1) ++ writtenText name ++ [':', ' '] ++
      written layout (depth + 1) value ++ writtenMembers layout (depth + 1) members ++
      layout.lineBreak depth ++ ['\x7d']

/-- The items behind the first one of an array. -/
def writtenItems (layout : Layout) (depth : Nat) : List Json → List Char
  | [] => []
  | item :: items =>
    layout.separator depth ++ written layout depth item ++ writtenItems layout depth items

/-- The members behind the first one of an object. -/
def writtenMembers (layout : Layout) (depth : Nat) : List (Text × Json) → List Char
  | [] => []
  | (name, value) :: members =>
    layout.separator depth ++ writtenText name ++ [':', ' '] ++ written layout depth value ++
      writtenMembers layout depth members

end

/-- A value as JSON text. -/
def render (layout : Layout) (value : Json) : Except Text.ShowingDefect String :=
  value.shownBy (written layout 0 value)

/-- A double in a message. -/
def shownFloat : Binary64 → List Char
  | .nan => "nan".toList
  | .infinite negative => (if negative then ['-'] else []) ++ "inf".toList
  | .finite negative mantissa exponent =>
    (if negative then ['-'] else []) ++ Binary64.magnitudeText mantissa exponent

mutual

/-- A value in a message. -/
def shown : Json → List Char
  | .null => "None".toList
  | .boolean value => if value then "True".toList else "False".toList
  | .integer value => Text.intNumeral value
  | .float value => shownFloat value
  | .string text => text.quoted
  | .array [] => ['[', ']']
  | .array (item :: items) => '[' :: shown item ++ shownItems items ++ [']']
  | .object [] => ['\x7b', '\x7d']
  | .object ((name, value) :: members) =>
    '\x7b' :: name.quoted ++ [':', ' '] ++ shown value ++ shownMembers members ++
      ['\x7d']

/-- The items behind the first one of an array in a message. -/
def shownItems : List Json → List Char
  | [] => []
  | item :: items => [',', ' '] ++ shown item ++ shownItems items

/-- The members behind the first one of an object in a message. -/
def shownMembers : List (Text × Json) → List Char
  | [] => []
  | (name, value) :: members =>
    [',', ' '] ++ name.quoted ++ [':', ' '] ++ shown value ++ shownMembers members

end

/-- A value in a message as text. -/
def shownText (value : Json) : Except Text.ShowingDefect String :=
  value.shownBy value.shown

/-- A value as a name: a text stands without quotes, any other value as in a message. -/
def asName : Json → Except Text.ShowingDefect String
  | .string text => .ok text.shown
  | value => value.shownText

end Json
end RobotCity
