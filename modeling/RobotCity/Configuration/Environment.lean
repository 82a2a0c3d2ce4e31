import RobotCity.Configuration.OfJson

/-!
# Configurations from the environment

Five environment variables give a configuration where there is no document for it.
-/

namespace RobotCity

/-- The environment: the values of variables under their names. -/
abbrev Environment := List (String × String)

/-- The variable with the least number of an avenue or a street. -/
def lowVariable : String := "ROBOTSCRIPT_GRID_MIN"

/-- The variable with the greatest number of an avenue or a street. -/
def highVariable : String := "ROBOTSCRIPT_GRID_MAX"

/-- The variable with the kinds of items, between commas. -/
def kindsVariable : String := "ROBOTSCRIPT_ITEM_KINDS"

/-- The variable with the recipient that stands for every robot. -/
def everyoneVariable : String := "ROBOTSCRIPT_BROADCAST_TARGET"

/-- The variable that makes the check of procedures strict. -/
def strictVariable : String := "ROBOTSCRIPT_STRICT_SCOPES"

/-- A bound of the grid from the environment. -/
def boundOfEnvironment (environment : Environment) (name : String) (standard : Int) :
    Except ConfigurationError Int :=
  match environment.lookup name with
  | none => .ok standard
  | some text => boundOfText text

/-- Read a grid from the environment. -/
def Grid.ofEnvironment (environment : Environment) : Except ConfigurationError Grid := do
  let low ← boundOfEnvironment environment lowVariable Grid.standard.low
  let high ← boundOfEnvironment environment highVariable Grid.standard.high
  return { low, high }

/-- The kinds of items in a list with commas: blanks around a kind do not count, and a kind that is
all blank is none. -/
def kindsOfText (text : String) : List Text :=
  (((Text.splitAt ',' text.toList).map Text.strip).filter (!·.isEmpty)).map Text.ofChars

/-- Whether a text says yes. -/
def isYes (text : String) : Bool :=
  text.toList.map Char.toLower = "true".toList || text = "1"

/-- Read settings from the environment. -/
def Settings.ofEnvironment (environment : Environment) : Settings :=
  let kinds := kindsOfText ((environment.lookup kindsVariable).getD "")
  { itemKinds := if kinds.isEmpty then Settings.standardKinds else kinds.map .string
    everyone := .string
      (((environment.lookup everyoneVariable).map Text.ofString).getD Settings.standardEveryone)
    strict := .boolean (isYes ((environment.lookup strictVariable).getD "")) }

/-- Read a configuration from the environment. -/
def Configuration.ofEnvironment (environment : Environment) :
    Except ConfigurationError Configuration := do
  let grid ← Grid.ofEnvironment environment
  return { grid, settings := Settings.ofEnvironment environment }

end RobotCity
