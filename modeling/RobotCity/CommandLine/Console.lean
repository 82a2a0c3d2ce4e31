import RobotCity.Log
import RobotCity.Storage.Basic

/-!
# Consoles

A run writes to files, to the output and to the error output.  Its log goes to the error output, in
order with everything else there, or to a file of its own.
-/

namespace RobotCity

/-- What a run has written. -/
structure Console where
  storage : Storage
  output : String
  errors : String
  deriving DecidableEq, Repr

/-- Where the records of a log go. -/
inductive LogTarget where
  | errorOutput
  | file (names : List String)
  deriving DecidableEq, Repr

/-- Open the place of a log, which is a file if one is named. -/
def LogTarget.open? (storage : Storage) :
    Option String → Except StorageError (Storage × LogTarget)
  | none => .ok (storage, .errorOutput)
  | some path => do
    let (storage, names) ← storage.openToAppend path
    return (storage, .file names)

/-- An open log. -/
structure Journal where
  /-- The level below which records are left out. -/
  level : LogLevel
  /-- Where the records go. -/
  target : LogTarget
  deriving DecidableEq, Repr

namespace Console

/-- The console of a run that has written nothing. -/
def ofStorage (storage : Storage) : Console :=
  { storage, output := "", errors := "" }

/-- Write a line to the output. -/
def print (console : Console) (line : String) : Console :=
  { console with output := console.output ++ line ++ "\n" }

/-- Write a line to the error output. -/
def complain (console : Console) (line : String) : Console :=
  { console with errors := console.errors ++ line ++ "\n" }

/-- Write a record to a log. -/
def record (console : Console) (journal : Journal) (entry : LogRecord) : Console :=
  if entry.level.rank < journal.level.rank then console
  else
    match journal.target with
    | .errorOutput => console.complain entry.line
    | .file names =>
      { console with
        storage := console.storage.append names (Utf8.encode (entry.line ++ "\n").toList) }

/-- Write records to a log. -/
def recordAll (console : Console) (journal : Journal) (entries : List LogRecord) : Console :=
  entries.foldl (·.record journal) console

end Console
end RobotCity
