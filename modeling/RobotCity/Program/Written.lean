import RobotCity.Json.Reader
import RobotCity.Program.OfJson
import RobotCity.Program.ToJson

/-!
# Programs as text

A program is handed on as JSON text.  The text reads back as the same program in every layout, with
an envelope and without.
-/

namespace RobotCity

/-- Why a text is not read as a program. -/
inductive TextError where
  /-- The text is not JSON; the line and the column are counted from one. -/
  | malformed (defect : Json.SyntaxDefect) (line column : Nat)
  /-- The text holds an integer of too many digits. -/
  | longNumeral (digits : Nat)
  /-- The text does not have the shape of a program. -/
  | misshapen (error : ShapeError)
  /-- What is wrong with the shape cannot be put into words. -/
  | unshown (defect : Text.ShowingDefect)
  deriving DecidableEq

/-- The error of a text whose document is not loaded. -/
def TextError.ofLoad : LoadError → TextError
  | .misshapen error => .misshapen error
  | .unshown defect => .unshown defect

/-- The wording of an error. -/
def TextError.message : TextError → String
  | .malformed defect line column =>
    s!"Invalid JSON: {defect.message} " ++
      s!"(line {Text.natText line}, column {Text.natText column})"
  | .longNumeral digits => Json.longNumeralMessage digits
  | .misshapen error => Text.wording error.message
  | .unshown defect => defect.message

/-- Read a program from a text. -/
def Program.ofChars (text : List Char) : Except TextError Program :=
  match Json.readChars text with
  | .error (.malformed error) =>
    .error (.malformed error.defect (Json.lineAt text error.position)
      (Json.columnAt text error.position))
  | .error (.longNumeral digits) => .error (.longNumeral digits)
  | .ok document => (Program.load document).mapError .ofLoad

/-- Read a program from a text. -/
def Program.ofText (text : String) : Except TextError Program :=
  Program.ofChars text.toList

/-- Write a program, unless one of its integers is too long to be shown. -/
def Program.toText (layout : Json.Layout) (enveloped : Bool) (program : Program) :
    Except Text.ShowingDefect String :=
  (program.toDocument enveloped).render layout

end RobotCity
