import RobotCity.City
import RobotCity.Json.Basic

/-!
# Configurations

A configuration says how large the city is and what the checks of a program accept.  Settings that
come from a document are kept as they are given, whatever kind of value they have.
-/

namespace RobotCity

/-- What the checks of a program accept. -/
structure Settings where
  /-- The kinds of items that robots may carry. -/
  itemKinds : List Json
  /-- The recipient of a message that stands for every robot. -/
  everyone : Json
  /-- Whether no local variable may hide a parameter. -/
  strict : Json
  deriving DecidableEq

/-- A configuration. -/
structure Configuration where
  grid : Grid
  settings : Settings
  deriving DecidableEq

namespace Settings

/-- The kinds of items that are accepted if nothing else is said. -/
def standardKinds : List Json := [.string "flower", .string "paper"]

/-- The recipient that stands for every robot if nothing else is said. -/
def standardEveryone : Text := "*"

/-- The settings that hold if nothing else is said. -/
def standard : Settings :=
  { itemKinds := standardKinds
    everyone := .string standardEveryone
    strict := .boolean false }

/-- The name that stands for every robot.  Only a text can be the recipient of a message. -/
def everyone? (settings : Settings) : Option Text :=
  match settings.everyone with
  | .string name => some name
  | _ => none

/-- Whether the check of procedures is strict. -/
def isStrict (settings : Settings) : Bool :=
  settings.strict.isGiven

end Settings

/-- The configuration that holds if nothing else is said. -/
def Configuration.standard : Configuration :=
  { grid := .standard, settings := .standard }

/-- A grid as a document. -/
def Grid.toJson (grid : Grid) : Json :=
  .object
    [("min_coordinate", .integer grid.low), ("max_coordinate", .integer grid.high)]

/-- Settings as a document. -/
def Settings.toJson (settings : Settings) : Json :=
  .object
    [ ("item_kinds", .array settings.itemKinds)
    , ("broadcast_target", settings.everyone)
    , ("reject_shadowed_parameters", settings.strict) ]

/-- A configuration as a document. -/
def Configuration.toJson (configuration : Configuration) : Json :=
  .object
    [("grid", configuration.grid.toJson), ("validator", configuration.settings.toJson)]

end RobotCity
