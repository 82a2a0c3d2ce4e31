import RobotCity.Program.Written
import RobotCity.Storage.Basic

/-!
# Programs in files

A program file holds a program as UTF-8 text.  Whatever its line ends are, it gives the program that
its text gives.
-/

namespace RobotCity

/-- Why a file gives no program. -/
inductive FileError where
  | storage (error : StorageError)
  | encoding (error : Utf8.DecodeError)
  | text (error : TextError)
  deriving DecidableEq

/-- The wording of bytes that are no text, with their place. -/
def encodingMessage (error : Utf8.DecodeError) : String :=
  s!"Invalid UTF-8: {error.defect.message} at byte {Text.natText error.start}"

/-- The wording of an error. -/
def FileError.message : FileError → String
  | .storage error => error.message
  | .encoding error => encodingMessage error
  | .text error => error.message

/-- Read a program from the bytes of a file. -/
def Program.ofBytes (bytes : List UInt8) : Except FileError Program :=
  match decodeText bytes with
  | .error error => .error (.encoding error)
  | .ok text => (Program.ofChars text).mapError .text

/-- Read a program from a file. -/
def Program.ofFile (storage : Storage) (path : String) : Except FileError Program :=
  match storage.readBytes (plainPath path) with
  | .error error => .error (.storage error)
  | .ok bytes => Program.ofBytes bytes

end RobotCity
