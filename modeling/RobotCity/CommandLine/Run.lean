import RobotCity.Check.Logged
import RobotCity.CommandLine.Arguments
import RobotCity.CommandLine.Console
import RobotCity.Configuration.Source
import RobotCity.Program.File

/-!
# Runs

A run loads a configuration and a program, checks the program, and writes it if it is asked to.  A
program that is refused is never written, and the output is written in one piece at the very end.
-/

namespace RobotCity

/-- The status with which a run ends. -/
inductive ExitStatus where
  | success
  /-- The program is not accepted, or it cannot be read or written. -/
  | refused
  /-- The check met something that it does not know. -/
  | inconclusive
  deriving DecidableEq, Repr

/-- The number of a status. -/
def ExitStatus.code : ExitStatus → Nat
  | .success => 0
  | .refused => 1
  | .inconclusive => 2

/-- Why a run breaks off. -/
inductive Crash where
  | storage (error : StorageError)
  | configuration (error : LoadingError)
  /-- The program holds an integer of too many digits. -/
  | longNumeral (digits : Nat)
  /-- Something has to be shown that cannot be shown. -/
  | unshown (defect : Text.ShowingDefect)
  | check (error : CheckError)
  /-- The level of the log has been taken away. -/
  | noLevel
  deriving DecidableEq, Repr

/-- The wording of a crash. -/
def Crash.message : Crash → String
  | .storage error => error.message
  | .configuration error => error.message
  | .longNumeral digits => Json.longNumeralMessage digits
  | .unshown defect => defect.message
  | .check error => error.message
  | .noLevel => "attribute name must be string, not 'list'"

/-- How a run ends. -/
inductive Ending where
  | exit (status : ExitStatus)
  | crash (cause : Crash)
  deriving DecidableEq, Repr

/-- What a run works on. -/
structure Surface where
  /-- Where the program runs. -/
  machine : Machine
  /-- The bytes of the standard input. -/
  input : List UInt8
  deriving DecidableEq, Repr

/-- A path that is given: an empty one is none. -/
def givenPath (path : Option String) : Option String :=
  path.filter (· ≠ "")

/-- The record of reading a program. -/
def readingRecord (path : String) : LogRecord :=
  { level := .debug
    source := .loader
    message := s!"Loading program AST from {plainPath path}" }

/-- The records of reading a program: the standard input leaves none. -/
def readingRecords : Option String → List LogRecord
  | none => []
  | some path => [readingRecord path]

/-- Read the program from a file, or from the standard input if no file is given. -/
def readProgram (storage : Storage) (input : List UInt8) :
    Option String → Except FileError Program
  | none => Program.ofBytes input
  | some path => Program.ofFile storage path

/-- What a run says about an input that gives no program, unless it breaks off. -/
def readingNotice (path : Option String) (error : FileError) : Except Crash String :=
  match error with
  | .storage error =>
    match error.fault with
    | .nullCharacter => .error (.storage error)
    | .notFound => .ok s!"Error: File not found: {path.getD error.path}"
    | _ => .ok s!"Error reading input: {error.message}"
  | .encoding error =>
    .ok ("Error: Malformed program AST: " ++
      if path.isSome then encodingMessage error else s!"Invalid UTF-8: {error.defect.message}")
  | .text (.longNumeral digits) => .error (.longNumeral digits)
  | .text (.unshown defect) => .error (.unshown defect)
  | .text error => .ok s!"Error: Malformed program AST: {error.message}"

/-- Read the program, or end. -/
def Console.readProgram (console : Console) (journal : Journal) (input : List UInt8)
    (path : Option String) : Console × Except Ending Program :=
  let console := console.recordAll journal (readingRecords path)
  match RobotCity.readProgram console.storage input path with
  | .ok program => (console, .ok program)
  | .error error =>
    match readingNotice path error with
    | .ok notice => (console.complain notice, .error (.exit .refused))
    | .error cause => (console, .error (.crash cause))

/-- The status that a report calls for. -/
def Report.status (report : Report) : ExitStatus :=
  if report.internal then .inconclusive else .refused

/-- Check the program, or end. -/
def Console.check (console : Console) (journal : Journal) (configuration : Configuration)
    (program : Program) : Console × Except Ending Unit :=
  let (records, verdict) := program.logged configuration
  let console := console.recordAll journal records
  match verdict with
  | .ok none => (console, .ok ())
  | .ok (some report) =>
    (console.complain s!"Error: {report.text}", .error (.exit report.status))
  | .error error => (console, .error (.crash (.check error)))

/-- The layout of the output. -/
def Arguments.layout (arguments : Arguments) : Json.Layout :=
  if arguments.compact then .line else .indented 2

/-- Write the program to a file, or to the output if no file is given. -/
def Console.write (console : Console) (path : Option String) (text : String) :
    Console × Ending :=
  match path with
  | none => (console.print text, .exit .success)
  | some path =>
    match console.storage.writeBytes (plainPath path) (Utf8.encode (text ++ "\n").toList) with
    | .ok storage => ({ console with storage }, .exit .success)
    | .error error =>
      if error.fault = .nullCharacter then (console, .crash (.storage error))
      else (console.complain s!"Error writing output: {error.message}", .exit .refused)

/-- Write the program as the arguments say. -/
def Console.writeProgram (console : Console) (arguments : Arguments) (program : Program) :
    Console × Ending :=
  match program.toText arguments.layout arguments.envelope with
  | .ok text => console.write (givenPath arguments.output) text
  | .error defect => (console, .crash (.unshown defect))

/-- What a command does with a program once it is read. -/
def Command.act (command : Command) (arguments : Arguments) (console : Console)
    (journal : Journal) (configuration : Configuration) (program : Program) : Console × Ending :=
  match command with
  | .check =>
    match console.check journal configuration program with
    | (console, .error ending) => (console, ending)
    | (console, .ok ()) =>
      match program.name.asName with
      | .ok name => (console.complain s!"OK: program '{name}' is valid", .exit .success)
      | .error defect => (console, .crash (.unshown defect))
  | .emit =>
    if arguments.unchecked then console.writeProgram arguments program
    else
      match console.check journal configuration program with
      | (console, .error ending) => (console, ending)
      | (console, .ok ()) => console.writeProgram arguments program

/-- Carry a command out. -/
def Command.carryOut (command : Command) (arguments : Arguments) (surface : Surface) :
    Console × Ending :=
  match LogTarget.open? surface.machine.storage (givenPath arguments.logFile) with
  | .error error => (.ofStorage surface.machine.storage, .crash (.storage error))
  | .ok (storage, target) =>
    let console := Console.ofStorage storage
    match arguments.level with
    | none => (console, .crash .noLevel)
    | some level =>
      let journal : Journal := { level, target }
      match { surface.machine with storage }.loadConfiguration arguments.config with
      | .error error => (console, .crash (.configuration error))
      | .ok configuration =>
        match console.readProgram journal surface.input (givenPath arguments.input) with
        | (console, .error ending) => (console, ending)
        | (console, .ok program) => command.act arguments console journal configuration program

/-- What comes of a command line. -/
inductive Outcome where
  /-- The command line asks for help. -/
  | help
  /-- The command line is wrong; the line says why. -/
  | misuse (line : String)
  /-- The command is carried out. -/
  | carriedOut (console : Console) (ending : Ending)
  deriving DecidableEq, Repr

/-- Run a command line. -/
def run (words : List String) (surface : Surface) : Outcome :=
  let (command, words) := Command.ofWords words
  match command.arguments words with
  | .error .help => .help
  | .error (.misuse message) => .misuse (command.misuseLine message)
  | .ok arguments =>
    let (console, ending) := command.carryOut arguments surface
    .carriedOut console ending

end RobotCity
