import RobotCity.CommandLine.Run

/-!
# The program

A command line is run on the files that it can touch: they are read in front of the run, and what
the run has written is put back behind it.
-/

namespace RobotCity

/-- The bytes of a stream. -/
partial def readStream (stream : IO.FS.Stream) (before : List UInt8) : IO (List UInt8) := do
  let block ← stream.read 65536
  if block.isEmpty then return before
  else readStream stream (before ++ block.toList)

/-- The path along names. -/
def pathAlong : List String → String
  | [] => "."
  | name :: rest =>
    if name = outermost then outermost ++ "/".intercalate rest
    else "/".intercalate (name :: rest)

/-- Take over what stands at the end of names. -/
def observe (storage : Storage) (names : List String) : IO Storage := do
  let place := (← IO.currentDir) / pathAlong names
  let reached := names.foldl Storage.step []
  if ← place.isDir then return storage.set reached .directory
  else if ← place.pathExists then
    return storage.set reached (.file (← IO.FS.readBinFile place).toList)
  else return storage

/-- Take over everything that stands along a path. -/
def observePath (storage : Storage) (path : String) : IO Storage :=
  let names := pathNames path
  (List.range names.length).foldlM (fun storage count => observe storage (names.take (count + 1)))
    storage

/-- The variables of the environment that a run looks at. -/
def observedVariables : List String :=
  [fileVariable, lowVariable, highVariable, kindsVariable, everyoneVariable, strictVariable]

/-- The environment. -/
def observeEnvironment : IO Environment := do
  let values ← observedVariables.mapM fun name => do
    return (name, ← IO.getEnv name)
  return values.filterMap fun entry => entry.2.map fun value => (entry.1, value)

/-- The machine with the files that a run can touch. -/
def observeMachine (arguments : Arguments) : IO Machine := do
  let environment ← observeEnvironment
  let home := (← IO.getEnv "HOME").getD ""
  let machine : Machine := { storage := .empty, environment, home }
  let given := [arguments.input, arguments.config, arguments.logFile, arguments.output,
    environment.lookup fileVariable].filterMap givenPath
  let storage ← (given ++ machine.usualFiles).foldlM observePath machine.storage
  return { machine with storage }

/-- What a command line works on. -/
def observeSurface (words : List String) : IO Surface := do
  let (command, words) := Command.ofWords words
  let arguments :=
    match command.arguments words with
    | .ok arguments => arguments
    | .error _ => .standard
  let machine ← observeMachine arguments
  let needsInput := (command.arguments words).isOk && (givenPath arguments.input).isNone
  let input ← if needsInput then readStream (← IO.getStdin) [] else pure []
  return { machine, input }

/-- Put the files back that have changed. -/
def putBack (before after : Storage) : IO Unit :=
  after.entries.forM fun entry =>
    match entry.2 with
    | .directory => pure ()
    | .file bytes =>
      if before.entries.lookup entry.1 = some (.file bytes) then pure ()
      else IO.FS.writeBinFile (pathAlong entry.1) (ByteArray.mk bytes.toArray)

/-- What the program says about itself. -/
def helpText : String :=
  "usage: robotscript [check] [--config FILE] [--log-level LEVEL] [--log-file FILE] [input]\n" ++
    "       robotscript emit [-o FILE] [--compact] [--envelope] [--no-validate]\n" ++
    "                        [--config FILE] [--log-level LEVEL] [--log-file FILE] [input]\n"

end RobotCity

/-- Run a command line. -/
def main (words : List String) : IO UInt32 := do
  let surface ← RobotCity.observeSurface words
  match RobotCity.run words surface with
  | .help =>
    IO.print RobotCity.helpText
    return 0
  | .misuse line =>
    IO.eprintln line
    return 2
  | .carriedOut console ending =>
    RobotCity.putBack surface.machine.storage console.storage
    IO.print console.output
    IO.eprint console.errors
    match ending with
    | .exit status => return status.code.toUInt32
    | .crash cause =>
      IO.eprintln cause.message
      return 1
