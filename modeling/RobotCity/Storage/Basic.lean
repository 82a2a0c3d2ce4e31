import RobotCity.Text.Newline
import RobotCity.Text.Quoted
import RobotCity.Text.Utf8

/-!
# Storage

A storage holds files and directories under paths that start from its root, which is a directory.
Reading and writing fail with a cause and the path for which they were asked.
-/

namespace RobotCity

/-- What stands under a path. -/
inductive Entry where
  | file (bytes : List UInt8)
  | directory
  deriving DecidableEq, Repr

/-- Files and directories under the names that lead to them from the root. -/
structure Storage where
  /-- The names that lead to each entry, and the entry. -/
  entries : List (List String × Entry)
  deriving DecidableEq, Repr

/-- Why a path cannot be used. -/
inductive StorageFault where
  | notFound
  | isDirectory
  | notDirectory
  /-- The path holds a null character. -/
  | nullCharacter
  deriving DecidableEq, Repr

/-- A fault and the path to which it belongs. -/
structure StorageError where
  fault : StorageFault
  path : String
  deriving DecidableEq, Repr

/-- The wording of an error. -/
def StorageError.message (error : StorageError) : String :=
  let shown := Text.quotedString error.path
  match error.fault with
  | .notFound => s!"[Errno 2] No such file or directory: {shown}"
  | .isDirectory => s!"[Errno 21] Is a directory: {shown}"
  | .notDirectory => s!"[Errno 20] Not a directory: {shown}"
  | .nullCharacter => "embedded null byte"

/-- Cut a path at its slashes. -/
def splitPath : List Char → List (List Char)
  | [] => [[]]
  | c :: rest =>
    if c = '/' then [] :: splitPath rest
    else
      match splitPath rest with
      | [] => [[c]]
      | first :: others => (c :: first) :: others

/-- The name that stands for the outermost directory. -/
def outermost : String := "/"

/-- The name that leads to the directory above. -/
def above : String := ".."

/-- The steps of a path; empty names and single points lead nowhere. -/
def pathSteps (path : String) : List String :=
  ((splitPath path.toList).map String.ofList).filter fun name => name ≠ "" ∧ name ≠ "."

/-- The slashes in front of a path: two of them are kept apart from one and from more. -/
def pathRoot (path : String) : String :=
  match path.toList with
  | '/' :: '/' :: '/' :: _ => "/"
  | '/' :: '/' :: _ => "//"
  | '/' :: _ => "/"
  | _ => ""

/-- The names of a path, from the outermost directory if it starts with a slash. -/
def pathNames (path : String) : List String :=
  if pathRoot path = "" then pathSteps path else outermost :: pathSteps path

/-- A path without names that lead nowhere. -/
def plainPath (path : String) : String :=
  let plain := pathRoot path ++ "/".intercalate (pathSteps path)
  if plain = "" then "." else plain

namespace Storage

/-- The storage without files. -/
def empty : Storage := ⟨[]⟩

/-- Whether names lead to the root, to a directory above it or to the outermost directory. -/
def isOutside (names : List String) : Bool :=
  names.all (· == above) || names == [outermost]

/-- The entry to which names lead. -/
def entry? (storage : Storage) (names : List String) : Option Entry :=
  if isOutside names then some .directory else storage.entries.lookup names

/-- Set the entry under names in a list of entries. -/
def setEntry (names : List String) (entry : Entry) :
    List (List String × Entry) → List (List String × Entry)
  | [] => [(names, entry)]
  | (other, old) :: rest =>
    if other = names then (names, entry) :: rest else (other, old) :: setEntry names entry rest

/-- Set the entry under names. -/
def set (storage : Storage) (names : List String) (entry : Entry) : Storage :=
  ⟨setEntry names entry storage.entries⟩

/-- Go one name further from a directory. -/
def step (reached : List String) (name : String) : List String :=
  if name = above ∧ !isOutside reached then reached.dropLast
  else if name = above ∧ reached = [outermost] then reached
  else reached ++ [name]

/-- Follow names from a directory; the last name need not lead to anything. -/
def follow (storage : Storage) (reached : List String) :
    List String → Except StorageFault (List String)
  | [] => .ok reached
  | name :: rest =>
    match storage.entry? reached with
    | none => .error .notFound
    | some (.file _) => .error .notDirectory
    | some .directory => storage.follow (step reached name) rest

/-- The names to which the steps of a path lead. -/
def resolveSteps (storage : Storage) (path : String) (steps : List String) :
    Except StorageError (List String) :=
  if path.toList.contains '\x00' then .error ⟨.nullCharacter, path⟩
  else (storage.follow [] steps).mapError (⟨·, path⟩)

/-- The names to which a path leads. -/
def resolve (storage : Storage) (path : String) : Except StorageError (List String) :=
  storage.resolveSteps path (pathNames path)

/-- The bytes of a file. -/
def readBytes (storage : Storage) (path : String) : Except StorageError (List UInt8) := do
  let names ← storage.resolve path
  match storage.entry? names with
  | some (.file bytes) => .ok bytes
  | some .directory => .error ⟨.isDirectory, path⟩
  | none => .error ⟨.notFound, path⟩

/-- Whether a path leads to a file. -/
def isFile (storage : Storage) (path : String) : Bool :=
  (storage.readBytes path).isOk

/-- Write a file anew. -/
def writeBytes (storage : Storage) (path : String) (bytes : List UInt8) :
    Except StorageError Storage := do
  let names ← storage.resolve path
  match storage.entry? names with
  | some .directory => .error ⟨.isDirectory, path⟩
  | _ => .ok (storage.set names (.file bytes))

/-- Add bytes at the end of the file to which names lead. -/
def append (storage : Storage) (names : List String) (bytes : List UInt8) : Storage :=
  match storage.entry? names with
  | some (.file old) => storage.set names (.file (old ++ bytes))
  | _ => storage.set names (.file bytes)

/-- The file at whose end bytes can be added, made if it is not there.  Steps back in its path take
back the step in front of them, wherever that leads. -/
def openToAppend (storage : Storage) (path : String) :
    Except StorageError (Storage × List String) := do
  let names ← storage.resolveSteps path ((pathNames path).foldl step [])
  match storage.entry? names with
  | some .directory => .error ⟨.isDirectory, path⟩
  | _ => .ok (storage.append names [], names)

/-- Make the directories to which names lead, behind a directory that is there. -/
def addDirectories (storage : Storage) (reached : List String) : List String → Storage
  | [] => storage
  | name :: rest =>
    let names := reached ++ [name]
    let storage := if (storage.entry? names).isSome then storage else storage.set names .directory
    storage.addDirectories names rest

/-- Add a directory with all directories above it. -/
def addDirectory (storage : Storage) (path : String) : Storage :=
  storage.addDirectories [] (pathNames path)

/-- Add a file with all directories above it. -/
def addFile (storage : Storage) (path : String) (bytes : List UInt8) : Storage :=
  let names := pathNames path
  (storage.addDirectories [] names.dropLast).set names (.file bytes)

end Storage

/-- Why a file gives no text. -/
inductive ReadFault where
  | storage (error : StorageError)
  | encoding (error : Utf8.DecodeError)
  deriving DecidableEq, Repr

/-- The text that bytes hold, with all line ends alike. -/
def decodeText (bytes : List UInt8) : Except Utf8.DecodeError (List Char) :=
  (Utf8.decode bytes).map Text.unifyNewlines

/-- The text of a file. -/
def Storage.readText (storage : Storage) (path : String) : Except ReadFault (List Char) := do
  let bytes ← (storage.readBytes path).mapError .storage
  (decodeText bytes).mapError .encoding

end RobotCity
