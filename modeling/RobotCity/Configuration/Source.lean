import RobotCity.Configuration.Environment
import RobotCity.Storage.Basic

/-!
# Where a configuration comes from

A configuration comes from exactly one source: the file that is asked for, else the one that the
environment names, else the first configuration file of the usual places; and where that is no
file, from the variables of the environment alone.
-/

namespace RobotCity

/-- The source of a configuration. -/
inductive Source where
  | file (path : String)
  | environment
  deriving DecidableEq, Repr

/-- The variable that names a configuration file. -/
def fileVariable : String := "ROBOTSCRIPT_CONFIG"

/-- Where a program runs. -/
structure Machine where
  /-- The files, from the current directory on. -/
  storage : Storage
  environment : Environment
  /-- The path of the home directory. -/
  home : String
  deriving DecidableEq, Repr

/-- The name of a configuration file in a usual place. -/
def usualName : String := "robotscript.config.json"

/-- The usual places of a configuration file, in the order in which they are tried: the current
directory and a directory of its own in the home directory. -/
def Machine.usualFiles (machine : Machine) : List String :=
  [usualName, machine.home ++ "/.robotscript/" ++ usualName]

/-- The configuration file that is meant, there or not: the one that is asked for by a path that is
not empty, else the one that the environment names, else the first usual one that is there. -/
def Machine.meantFile? (machine : Machine) (asked : Option String) : Option String :=
  match asked.filter (· ≠ "") with
  | some path => some path
  | none =>
    match (machine.environment.lookup fileVariable).filter (· ≠ "") with
    | some path => some path
    | none => machine.usualFiles.find? machine.storage.isFile

/-- The source of the configuration. -/
def Machine.source (machine : Machine) (asked : Option String) : Source :=
  match machine.meantFile? asked with
  | some path => if machine.storage.isFile path then .file path else .environment
  | none => .environment

/-- Why no configuration is loaded. -/
inductive LoadingError where
  | storage (error : StorageError)
  | encoding (error : Utf8.DecodeError)
  /-- The file is not JSON; its text tells the line and the column. -/
  | malformed (text : List Char) (error : Json.SyntaxError)
  | configuration (error : ConfigurationError)
  deriving DecidableEq, Repr

/-- The wording of a refusal to decode, with the bytes to blame. -/
def Utf8.DecodeError.message (error : Utf8.DecodeError) : String :=
  if error.count = 1 then
    s!"'utf-8' codec can't decode byte 0x{String.ofList (Text.hexNumeral 2 error.byte.toNat)} " ++
      s!"in position {Text.natText error.start}: {error.defect.message}"
  else
    s!"'utf-8' codec can't decode bytes in position {Text.natText error.start}-" ++
      s!"{Text.natText (error.start + error.count - 1)}: {error.defect.message}"

/-- The wording of an error. -/
def LoadingError.message : LoadingError → String
  | .storage error => error.message
  | .encoding error => error.message
  | .malformed text error => error.message text
  | .configuration error => error.message

/-- Read a configuration from a text. -/
def Configuration.ofText (text : List Char) : Except LoadingError Configuration :=
  match Json.readChars text with
  | .error (.malformed error) => .error (.malformed text error)
  | .error (.longNumeral digits) => .error (.configuration (.longNumeral digits))
  | .ok document => (Configuration.ofJson document).mapError .configuration

/-- Load the configuration of a source. -/
def Machine.loadSource (machine : Machine) : Source → Except LoadingError Configuration
  | .environment => (Configuration.ofEnvironment machine.environment).mapError .configuration
  | .file path =>
    match machine.storage.readText path with
    | .error (.storage error) => .error (.storage error)
    | .error (.encoding error) => .error (.encoding error)
    | .ok text => Configuration.ofText text

/-- Load the configuration that is asked for. -/
def Machine.loadConfiguration (machine : Machine) (asked : Option String) :
    Except LoadingError Configuration :=
  machine.loadSource (machine.source asked)

end RobotCity
