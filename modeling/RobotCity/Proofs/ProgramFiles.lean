import RobotCity.Proofs.Documents.ShownDefects
import RobotCity.Proofs.Json.LineEnds
import RobotCity.Proofs.Json.LongNumerals
import RobotCity.Proofs.Storage
import RobotCity.Program.File

/-!
# Programs in texts and files

A file gives the program that its text gives, whatever the spelling of its line ends is, and is refused
for an error of the same class.  Unless the text holds a number of too many digits, the error says that
the document is broken.
-/

namespace RobotCity

/-- The classes of errors with which a program is refused. -/
inductive ErrorClass where
  /-- The document is broken: bytes that are no text, a text that is not JSON, or a value that does not
  have the shape of a program. -/
  | format
  /-- A number has too many digits to be converted. -/
  | number
  /-- The file cannot be read. -/
  | storage (fault : StorageFault)
  deriving DecidableEq, Repr

/-- The class of an error in a text. -/
def TextError.errorClass : TextError → ErrorClass
  | .malformed _ _ _ | .misshapen _ => .format
  | .longNumeral _ | .unshown _ => .number

/-- The class of an error in a file. -/
def FileError.errorClass : FileError → ErrorClass
  | .storage error => .storage error.fault
  | .encoding _ => .format
  | .text error => error.errorClass

/-- An error gives up on a number, since a text holds more digits in a row than are converted. -/
def TextError.GivesUpIn (text : List Char) (error : TextError) : Prop :=
  ∃ digits, error = .longNumeral digits ∧ 4300 < digits ∧ Json.HoldsDigits text digits

/-- A text is refused as a broken document, unless a number in it is given up. -/
theorem TextError.format_or_givesUp {text : List Char} {error : TextError}
    (refused : Program.ofChars text = .error error) :
    error.errorClass = .format ∨ error.GivesUpIn text := by
  cases read : Json.readChars text with
  | ok document =>
      rw [Program.ofChars_of_readChars read] at refused
      obtain ⟨shape, -, rfl⟩ := mapError_eq_error_iff.mp refused
      exact .inl rfl
  | error reason =>
      rw [Program.ofChars, read] at refused
      cases reason with
      | malformed error =>
          cases refused
          exact .inl rfl
      | longNumeral digits =>
          cases refused
          obtain ⟨too_many, holds⟩ := Json.readChars_longNumeral read
          exact .inr ⟨digits, rfl, too_many, holds⟩

/-- An error gives up on a number in the text that some bytes hold. -/
def FileError.GivesUpIn (bytes : List UInt8) (error : FileError) : Prop :=
  ∃ text inner, decodeText bytes = .ok text ∧ error = .text inner ∧ inner.GivesUpIn text

/-- Bytes are refused as a broken document, unless a number in the text that they hold is given up. -/
theorem FileError.format_or_givesUp {bytes : List UInt8} {error : FileError}
    (refused : Program.ofBytes bytes = .error error) :
    error.errorClass = .format ∨ error.GivesUpIn bytes := by
  rw [Program.ofBytes] at refused
  cases decoded : decodeText bytes with
  | error encoding =>
      rw [decoded] at refused
      cases refused
      exact .inl rfl
  | ok text =>
      rw [decoded] at refused
      obtain ⟨inner, read, rfl⟩ := mapError_eq_error_iff.mp refused
      exact (TextError.format_or_givesUp read).imp_right
        fun gives_up => ⟨text, inner, decoded, rfl, gives_up⟩

/-- An error without the line and the column of a defect. -/
def TextError.unplaced : TextError → TextError
  | .malformed defect _ _ => .malformed defect 0 0
  | error => error

theorem TextError.errorClass_unplaced (error : TextError) :
    error.unplaced.errorClass = error.errorClass := by
  cases error <;> rfl

theorem TextError.unplaced_eq_misshapen_iff {error : TextError} {shape : ShapeError} :
    error.unplaced = .misshapen shape ↔ error = .misshapen shape := by
  cases error <;> simp [unplaced]

namespace Program

/-- What a JSON value gives, or an error without its place. -/
def ofOutcome : Except Json.ReadError Json → Except TextError Program
  | .error (.malformed error) => .error (.malformed error.defect 0 0)
  | .error (.longNumeral digits) => .error (.longNumeral digits)
  | .ok document => (Program.ofJson document).mapError .misshapen

theorem ofChars_unplaced (text : List Char) :
    (ofChars text).mapError TextError.unplaced =
      ofOutcome ((Json.readChars text).mapError Json.ReadError.unplaced) := by
  cases read : Json.readChars text with
  | error error =>
      rw [ofChars, read]
      cases error <;> rfl
  | ok document =>
      rw [ofChars_of_readChars read]
      change ((Program.ofJson document).mapError .misshapen).mapError TextError.unplaced =
        (Program.ofJson document).mapError .misshapen
      cases Program.ofJson document <;> rfl

/-- A text with its line ends written alike gives the same program, or is refused for the same error, be
it at another line and column. -/
theorem ofChars_unifyNewlines (text : List Char) :
    (ofChars (Text.unifyNewlines text)).mapError TextError.unplaced =
      (ofChars text).mapError TextError.unplaced := by
  rw [ofChars_unplaced, ofChars_unplaced, Json.readChars_unifyNewlines]

theorem ofFile_eq_ofChars {storage : Storage} {path : String} {text : List Char}
    (holds : storage.readBytes (plainPath path) = .ok (Utf8.encode text)) :
    ofFile storage path = (ofChars (Text.unifyNewlines text)).mapError .text := by
  rw [ofFile, holds]
  dsimp only
  rw [ofBytes, decodeText_encode]

/-- A file that holds a text gives the program that the text gives, or an error of the same class; an
error of shape is the same error. -/
theorem ofFile_alike {storage : Storage} {path : String} {text : List Char}
    (holds : storage.readBytes (plainPath path) = .ok (Utf8.encode text)) :
    (ofFile storage path).mapError FileError.errorClass =
        (ofChars text).mapError TextError.errorClass ∧
      ∀ error, ofFile storage path = .error (.text (.misshapen error)) ↔
        ofChars text = .error (.misshapen error) := by
  have alike := ofChars_unifyNewlines text
  rw [ofFile_eq_ofChars holds]
  cases read : ofChars text with
  | ok program =>
      cases unified : ofChars (Text.unifyNewlines text) with
      | ok other =>
          rw [read, unified] at alike
          cases alike
          exact ⟨rfl, fun _ => iff_of_false nofun nofun⟩
      | error error =>
          rw [read, unified] at alike
          cases alike
  | error error =>
      cases unified : ofChars (Text.unifyNewlines text) with
      | ok other =>
          rw [read, unified] at alike
          cases alike
      | error error' =>
          rw [read, unified] at alike
          have same : error'.unplaced = error.unplaced := Except.error.inj alike
          refine ⟨?_, fun shape => ?_⟩
          · change Except.error error'.errorClass = Except.error error.errorClass
            rw [← TextError.errorClass_unplaced, same, TextError.errorClass_unplaced]
          · simp only [mapError_error, Except.error.injEq, FileError.text.injEq]
            rw [← TextError.unplaced_eq_misshapen_iff, same, TextError.unplaced_eq_misshapen_iff]

end Program

/-- A list whose items stand on lines with different ends. -/
def listing : List Char := "[\r\n1,\r2]".toList

/-- A storage that holds the list in a file. -/
def listingStorage : Storage := ⟨[(["list.json"], .file (Utf8.encode listing))]⟩

theorem listing_alike :
    (Program.ofFile listingStorage "./list.json").mapError FileError.errorClass =
        (Program.ofChars listing).mapError TextError.errorClass ∧
      ∀ error, Program.ofFile listingStorage "./list.json" = .error (.text (.misshapen error)) ↔
        Program.ofChars listing = .error (.misshapen error) :=
  Program.ofFile_alike rfl

end RobotCity
