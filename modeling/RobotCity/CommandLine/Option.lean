import RobotCity.Log
import RobotCity.Text.Digit
import RobotCity.Text.Quoted

/-!
# Options

A command line starts with a command, which may be left out, and goes on with operands and options.
The name of a long option may be cut short as long as it stays clear which one is meant; a value is
attached to a long option by an equals sign and to a short one without anything between them.
-/

namespace RobotCity

/-- What the program is asked to do. -/
inductive Command where
  /-- Check a program. -/
  | check
  /-- Check a program and write it. -/
  | emit
  deriving DecidableEq, Repr

/-- The word of a command. -/
def Command.name : Command → String
  | .check => "check"
  | .emit => "emit"

/-- What an option is for. -/
inductive Switch where
  | help
  | output
  | compact
  | envelope
  | unchecked
  | config
  | logLevel
  | logFile
  deriving DecidableEq, Repr

namespace Switch

/-- The names of an option. -/
def names : Switch → List String
  | .help => ["-h", "--help"]
  | .output => ["-o", "--output"]
  | .compact => ["--compact"]
  | .envelope => ["--envelope"]
  | .unchecked => ["--no-validate"]
  | .config => ["--config"]
  | .logLevel => ["--log-level"]
  | .logFile => ["--log-file"]

/-- Whether an option has a value. -/
def takesValue : Switch → Bool
  | .help | .compact | .envelope | .unchecked => false
  | .output | .config | .logLevel | .logFile => true

/-- A complaint about an option. -/
def complaint (switch : Switch) (message : String) : String :=
  "argument " ++ "/".intercalate switch.names ++ ": " ++ message

end Switch

/-- The options of a command, in the order in which they are listed. -/
def Command.switches : Command → List Switch
  | .check => [.help, .config, .logLevel, .logFile]
  | .emit =>
    [.help, .output, .compact, .envelope, .unchecked, .config, .logLevel, .logFile]

/-- The options of a command by their names. -/
def Command.options (command : Command) : List (String × Switch) :=
  command.switches.flatMap fun switch => switch.names.map (·, switch)

/-- The word that ends the options. -/
def divider : String := "--"

/-- A word of a command line. -/
inductive Word where
  | operand (text : String)
  /-- Two dashes: all words behind them are operands. -/
  | divider
  | option (switch : Switch) (name : String) (attached : Option (List Char))
  /-- A word that looks like an option but is none. -/
  | unknown (text : String)
  deriving DecidableEq, Repr

/-- Cut a word at its first equals sign. -/
def cutAtEquals (word : List Char) : List Char × Option (List Char) :=
  match word.dropWhile (· ≠ '=') with
  | [] => (word, none)
  | _ :: value => (word.takeWhile (· ≠ '='), some value)

/-- Whether a word behind its dash is a number: digits with at most one point, which is not the last
character.  A line feed at the end does not count. -/
def isNumber (word : List Char) : Bool :=
  let body := if word.getLast? = some '\n' then word.dropLast else word
  let isDigit := fun c => (Text.digitValue? c).isSome
  match body.dropWhile isDigit with
  | [] => !body.isEmpty
  | c :: fraction => c == '.' && !fraction.isEmpty && fraction.all isDigit

namespace Command

/-- The options that a word may mean which is no name of an option: a long one that is cut short, or
a short one with its value attached. -/
def candidates (command : Command) (word : List Char) :
    List (String × Switch × Option (List Char)) :=
  match word with
  | '-' :: '-' :: _ =>
    let cut := cutAtEquals word
    (command.options.filter fun option => cut.1.isPrefixOf option.1.toList).map
      fun option => (option.1, option.2, cut.2)
  | '-' :: letter :: value =>
    (command.options.filter fun option => option.1.toList = ['-', letter]).map
      fun option => (option.1, option.2, some value)
  | _ => []

/-- The option of a word that is its name, or its name with a value behind an equals sign. -/
def named? (command : Command) (word : String) : Option Word :=
  match command.options.lookup word with
  | some switch => some (.option switch word none)
  | none =>
    let cut := cutAtEquals word.toList
    let name := String.ofList cut.1
    match cut.2, command.options.lookup name with
    | some attached, some switch => some (.option switch name (some attached))
    | _, _ => none

/-- What a word is that stands in front of the divider. -/
def classify (command : Command) (word : String) : Except String Word :=
  match word.toList with
  | '-' :: letter :: rest =>
    match command.named? word with
    | some found => .ok found
    | none =>
      match command.candidates ('-' :: letter :: rest) with
      | [(name, switch, attached)] => .ok (.option switch name attached)
      | [] =>
        if isNumber (letter :: rest) || word.toList.contains ' ' then .ok (.operand word)
        else .ok (.unknown word)
      | several =>
        .error (s!"ambiguous option: {word} could match " ++
          ", ".intercalate (several.map (·.1)))
  | _ => .ok (.operand word)

/-- What the words of a command line are. -/
def classifyAll (command : Command) : List String → Except String (List Word)
  | [] => .ok []
  | word :: rest =>
    if word = divider then .ok (.divider :: rest.map .operand)
    else do
      let first ← command.classify word
      let others ← command.classifyAll rest
      return first :: others

end Command
end RobotCity
