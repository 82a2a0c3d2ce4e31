import RobotCity.CommandLine.Option

/-!
# Arguments

The words of a command line settle what a run reads, writes and logs.  The first operand names the
input; further operands and unknown options are refused once everything else is settled.
-/

namespace RobotCity

/-- What a command line settles. -/
structure Arguments where
  /-- The file to read, if it is not the standard input. -/
  input : Option String
  /-- The configuration file that is asked for. -/
  config : Option String
  /-- The level of the log, unless it has been taken away. -/
  level : Option LogLevel
  /-- The file of the log, if it is not the error output. -/
  logFile : Option String
  /-- The file to write, if it is not the standard output. -/
  output : Option String
  /-- Whether the program is written on one line. -/
  compact : Bool
  /-- Whether the program is written in an envelope. -/
  envelope : Bool
  /-- Whether the program is written without a check. -/
  unchecked : Bool
  deriving DecidableEq, Repr

/-- What an empty command line settles. -/
def Arguments.standard : Arguments :=
  { input := none
    config := none
    level := some .warning
    logFile := none
    output := none
    compact := false
    envelope := false
    unchecked := false }

/-- Why a command line is not carried out. -/
inductive Halt where
  /-- The command line asks for help. -/
  | help
  /-- The command line is wrong. -/
  | misuse (message : String)
  deriving DecidableEq, Repr

/-- What is settled by the words read so far. -/
structure Parsing where
  arguments : Arguments
  /-- The words for which there is no use. -/
  unused : List String
  deriving DecidableEq, Repr

namespace Parsing

/-- A word for which there is no use. -/
def leave (parsing : Parsing) (word : String) : Parsing :=
  { parsing with unused := parsing.unused ++ [word] }

/-- Whether the input is settled. -/
def hasInput (parsing : Parsing) : Bool :=
  parsing.arguments.input.isSome

/-- Take an operand: the first one is the input. -/
def takeOperand (parsing : Parsing) (word : String) : Parsing :=
  if parsing.hasInput then parsing.leave word
  else { parsing with arguments := { parsing.arguments with input := some word } }

/-- The refusal of a value that is none of the names of log levels. -/
def badLevel (value : String) : Halt :=
  .misuse (Switch.logLevel.complaint
    (s!"invalid choice: {Text.quotedString value} (choose from " ++
      ", ".intercalate (LogLevel.names.map (Text.quotedString ·.1)) ++ ")"))

/-- Settle an option with a value. -/
def setValue (parsing : Parsing) (switch : Switch) (value : String) : Except Halt Parsing :=
  let arguments := parsing.arguments
  match switch with
  | .output => .ok { parsing with arguments := { arguments with output := some value } }
  | .config => .ok { parsing with arguments := { arguments with config := some value } }
  | .logFile => .ok { parsing with arguments := { arguments with logFile := some value } }
  | .logLevel =>
    match LogLevel.names.lookup value with
    | some level => .ok { parsing with arguments := { arguments with level := some level } }
    | none => .error (badLevel value)
  | _ => .ok parsing

/-- Take the value of an option away. -/
def clearValue (parsing : Parsing) (switch : Switch) : Parsing :=
  let arguments := parsing.arguments
  match switch with
  | .output => { parsing with arguments := { arguments with output := none } }
  | .config => { parsing with arguments := { arguments with config := none } }
  | .logFile => { parsing with arguments := { arguments with logFile := none } }
  | .logLevel => { parsing with arguments := { arguments with level := none } }
  | _ => parsing

/-- Settle an option with a value that is attached to it; two dashes stand for no value. -/
def setAttached (parsing : Parsing) (switch : Switch) (value : String) : Except Halt Parsing :=
  if value = divider then .ok (parsing.clearValue switch) else parsing.setValue switch value

/-- Settle an option without a value. -/
def setFlag (parsing : Parsing) (switch : Switch) : Except Halt Parsing :=
  let arguments := parsing.arguments
  match switch with
  | .help => .error .help
  | .compact => .ok { parsing with arguments := { arguments with compact := true } }
  | .envelope => .ok { parsing with arguments := { arguments with envelope := true } }
  | .unchecked => .ok { parsing with arguments := { arguments with unchecked := true } }
  | _ => .ok parsing

end Parsing

/-- The refusal of a value for an option that has none. -/
def ignoredValue (switch : Switch) (value : List Char) : Halt :=
  .misuse (switch.complaint
    s!"ignored explicit argument {Text.quotedString (String.ofList value)}")

/-- The refusal of an option without its value. -/
def missingValue (switch : Switch) : Halt :=
  .misuse (switch.complaint "expected one argument")

namespace Command

/-- How a run of short options ends that starts with the option for help: what is attached to an
option without a value has to be further short options, and only a mistake among them comes before
the help.  `valueFollows` tells whether the next word can be a value. -/
def shortRun (command : Command) (valueFollows : Bool) (switch : Switch) : List Char → Halt
  | [] => ignoredValue switch []
  | letter :: rest =>
    match command.options.lookup (String.ofList ['-', letter]) with
    | none => ignoredValue switch (letter :: rest)
    | some next =>
      if next.takesValue then
        if rest.isEmpty && !valueFollows then missingValue next else .help
      else if rest.isEmpty then .help
      else command.shortRun valueFollows next rest

/-- How a command line ends that attaches a value to an option without one. -/
def attachedHalt (command : Command) (valueFollows : Bool) (switch : Switch) (name : String)
    (attached : List Char) : Halt :=
  match name.toList with
  | '-' :: '-' :: _ => ignoredValue switch attached
  | _ => command.shortRun valueFollows switch attached

/-- Whether the next word can be a value. -/
def startsWithOperand : List Word → Bool
  | .operand _ :: _ => true
  | _ => false

/-- Settle words in order.  The divider belongs to the input if it stands beside it. -/
def settle (command : Command) (parsing : Parsing) : List Word → Except Halt Parsing
  | [] => .ok parsing
  | .unknown text :: rest => command.settle (parsing.leave text) rest
  | .option switch name (some attached) :: rest =>
    if switch.takesValue then do
      let parsing ← parsing.setAttached switch (String.ofList attached)
      command.settle parsing rest
    else .error (command.attachedHalt (startsWithOperand rest) switch name attached)
  | .option switch _ none :: .operand text :: rest =>
    if switch.takesValue then do
      let parsing ← parsing.setValue switch text
      command.settle parsing rest
    else do
      let parsing ← parsing.setFlag switch
      command.settle parsing (.operand text :: rest)
  | .option switch _ none :: rest =>
    if switch.takesValue then .error (missingValue switch)
    else do
      let parsing ← parsing.setFlag switch
      command.settle parsing rest
  | .operand text :: .divider :: rest =>
    if parsing.hasInput then command.settle ((parsing.leave text).leave divider) rest
    else command.settle (parsing.takeOperand text) rest
  | .operand text :: rest => command.settle (parsing.takeOperand text) rest
  | .divider :: rest =>
    if parsing.hasInput then command.settle (parsing.leave divider) rest
    else command.settle parsing rest

/-- The arguments of a command. -/
def arguments (command : Command) (words : List String) : Except Halt Arguments := do
  let words ← (command.classifyAll words).mapError .misuse
  let parsing ← command.settle
    { arguments := Arguments.standard, unused := [] } words
  if parsing.unused.isEmpty then return parsing.arguments
  else throw (.misuse ("unrecognized arguments: " ++ " ".intercalate parsing.unused))

/-- The command of a command line and the words behind it.  A command line that does not start with
a command asks for a check. -/
def ofWords : List String → Command × List String
  | [] => (.check, [])
  | word :: rest =>
    if word = Command.check.name then (.check, rest)
    else if word = Command.emit.name then (.emit, rest)
    else (.check, word :: rest)

/-- The last line of the refusal of a wrong command line. -/
def misuseLine (command : Command) (message : String) : String :=
  s!"robotscript {command.name}: error: {message}"

end Command
end RobotCity
