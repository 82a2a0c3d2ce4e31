import RobotCity.Configuration.Basic
import RobotCity.Json.Printer
import RobotCity.Json.Reader
import RobotCity.Text.Integer

/-!
# Configurations from documents

Everything in a configuration document may be left out.  The bounds of the grid are converted to
integers from numbers and from texts; the other settings are taken as they are.
-/

namespace RobotCity

/-- Why a document or the environment gives no configuration. -/
inductive ConfigurationError where
  /-- A value that has to be an object is none. -/
  | notObject (found : Json.Kind)
  /-- A value that has to list the kinds of items does not list anything. -/
  | notIterable (found : Json.Kind)
  /-- A bound is neither a number nor a text. -/
  | notNumber (found : Json.Kind)
  /-- A bound is a text that is no integer. -/
  | notInteger (text : Text)
  /-- A bound is a text with too many digits. -/
  | longNumeral (digits : Nat)
  | infiniteBound
  | undefinedBound
  deriving DecidableEq, Repr

/-- The wording of an error. -/
def ConfigurationError.message : ConfigurationError → String
  | .notObject found => s!"'{found.name}' object has no attribute 'get'"
  | .notIterable found => s!"'{found.name}' object is not iterable"
  | .notNumber found =>
    "int() argument must be a string, a bytes-like object or a real number, " ++
      s!"not '{found.name}'"
  | .notInteger text =>
    "invalid literal for int() with base 10: " ++
      String.ofList (text.quoted.take 200)
  | .longNumeral digits => Json.longNumeralMessage digits
  | .infiniteBound => "cannot convert float infinity to integer"
  | .undefinedBound => "cannot convert float NaN to integer"

/-- Convert a text to an integer. -/
def boundOfText (text : Text) : Except ConfigurationError Int :=
  text.readInteger.mapError fun
    | .notInteger => .notInteger text
    | .tooLong digits => .longNumeral digits

/-- Convert a value to an integer: fractions are dropped, true is one and false is zero. -/
def boundOfJson : Json → Except ConfigurationError Int
  | .boolean value => .ok (if value then 1 else 0)
  | .integer value => .ok value
  | .float .nan => .error .undefinedBound
  | .float (.infinite _) => .error .infiniteBound
  | .float (.finite negative mantissa exponent) =>
    .ok (Binary64.truncated negative mantissa exponent)
  | .string text => boundOfText text
  | value => .error (.notNumber value.kind)

/-- What a value lists: the items of an array, the names of an object or the letters of a
text. -/
def listed : Json → Except ConfigurationError (List Json)
  | .array items => .ok items
  | .object members => .ok (members.map fun entry => .string entry.1)
  | .string text => .ok (text.letters.map fun letter => .string letter.text)
  | value => .error (.notIterable value.kind)

/-- The members of a configuration object. -/
def configurationMembers : Json → Except ConfigurationError (List (Text × Json))
  | .object members => .ok members
  | value => .error (.notObject value.kind)

/-- The value under the first one of two names that occurs. -/
def eitherMember (members : List (Text × Json)) (name other : Text) (standard : Json) : Json :=
  (Json.member? members name).getD ((Json.member? members other).getD standard)

/-- Read a grid. -/
def Grid.ofJson (document : Json) : Except ConfigurationError Grid := do
  let members ← configurationMembers document
  let low ← boundOfJson
    (eitherMember members "min_coordinate" "minCoordinate" (.integer Grid.standard.low))
  let high ← boundOfJson
    (eitherMember members "max_coordinate" "maxCoordinate" (.integer Grid.standard.high))
  return { low, high }

/-- Read settings. -/
def Settings.ofJson (document : Json) : Except ConfigurationError Settings := do
  let members ← configurationMembers document
  let itemKinds ← listed ((Json.member? members "item_kinds").getD (.array Settings.standardKinds))
  return {
    itemKinds
    everyone := (Json.member? members "broadcast_target").getD (.string Settings.standardEveryone)
    strict := (Json.member? members "reject_shadowed_parameters").getD (.boolean false) }

/-- Read a configuration. -/
def Configuration.ofJson (document : Json) : Except ConfigurationError Configuration := do
  let members ← configurationMembers document
  let grid ← Grid.ofJson ((Json.member? members "grid").getD (.object []))
  let settings ← Settings.ofJson ((Json.member? members "validator").getD (.object []))
  return { grid, settings }

end RobotCity
