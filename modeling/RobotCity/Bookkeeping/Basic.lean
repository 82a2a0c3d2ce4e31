import RobotCity.Json.Printer
import RobotCity.NameTable
import RobotCity.Program.Basic

/-!
# Bookkeeping

While a setup is checked, two kinds of books are kept: for each area how many robots hold it, and
for each robot which areas it holds, what it carries and where it starts.  The books themselves can
refuse an entry; a check that asks before it enters anything is never refused.
-/

namespace RobotCity

/-- Why the books refuse an entry. -/
inductive BookError where
  /-- An area is held by as many robots as may hold it. -/
  | areaFull (area : Text) (maximum : Int)
  /-- A value cannot stand for a kind of items. -/
  | unusableKind (kind : Json.Kind)
  /-- A kind of items has no entry. -/
  | noEntry (kind : Text)
  /-- An area has no usage. -/
  | noUsage (area : Text)
  deriving DecidableEq, Repr

/-- The wording of a refusal. -/
def BookError.message : BookError → String
  | .areaFull area maximum =>
    Text.wording ((Text.showInteger maximum).map (s!"Area '{area}' is already at capacity " ++ ·))
  | .unusableKind kind => s!"unhashable type: '{kind.name}'"
  | .noEntry name | .noUsage name => String.ofList name.quoted

/-- How an area is used. -/
structure AreaUsage where
  area : Area
  /-- How many robots may hold it. -/
  maximum : Int
  /-- How many robots hold it. -/
  current : Nat
  deriving DecidableEq, Repr

namespace AreaUsage

/-- The usage of an area that no robot holds yet, in a city of `robots` robots. -/
def ofArea (robots : Int) (area : Area) : AreaUsage :=
  { area, maximum := area.occupancy.capacity robots, current := 0 }

/-- Whether no other robot may hold the area. -/
def isFull (usage : AreaUsage) : Bool :=
  usage.maximum ≤ usage.current

/-- Whether a robot holds the area. -/
def isUsed (usage : AreaUsage) : Bool :=
  0 < usage.current

/-- Let one more robot hold the area. -/
def claim (usage : AreaUsage) : Except BookError AreaUsage :=
  if usage.isFull then .error (.areaFull usage.area.name usage.maximum)
  else .ok { usage with current := usage.current + 1 }

end AreaUsage

/-- What a robot carries: for each kind of items the quantity, once it is settled. -/
abbrev Inventory := List (Json × Option Int)

namespace Inventory

/-- The entry of a kind. -/
def find? (inventory : Inventory) (kind : Json) : Option (Json × Option Int) :=
  List.find? (fun entry => entry.1.asKey = kind.asKey) inventory

/-- The inventory of some kinds, behind the kinds that are entered already.  Each kind is entered
once. -/
def extend (inventory : Inventory) : List Json → Except BookError Inventory
  | [] => .ok inventory
  | kind :: rest =>
    if kind.isKey then
      if (inventory.find? kind).isSome then extend inventory rest
      else extend (inventory ++ [(kind, none)]) rest
    else .error (.unusableKind kind.kind)

/-- The empty inventory of some kinds. -/
def ofKinds (kinds : List Json) : Except BookError Inventory :=
  extend [] kinds

/-- Enter the quantity of a kind. -/
def enter (inventory : Inventory) (kind : Json) (quantity : Int) : Inventory :=
  inventory.map fun entry =>
    if entry.1.asKey = kind.asKey then (entry.1, some quantity) else entry

end Inventory

/-- What a robot has been given. -/
structure Account where
  name : Text
  /-- The areas that it holds, in the order in which it got them. -/
  areas : List Text
  inventory : Inventory
  /-- The corner at which it starts, once that is settled. -/
  origin : Option Point
  deriving DecidableEq

/-- The account of a robot that has been given nothing. -/
def Account.ofRobot (kinds : List Json) (robot : Robot) : Except BookError Account := do
  let inventory ← Inventory.ofKinds kinds
  return { name := robot.name, areas := [], inventory, origin := none }

/-- All books. -/
structure Ledger where
  /-- The usages of the areas, under their names. -/
  usages : NameTable AreaUsage
  /-- The accounts of the robots, under their names. -/
  accounts : NameTable Account
  deriving DecidableEq

/-- The books before anything is given out.  Of areas of one name the last counts, of robots of one
name the first; the robots are counted as they are declared. -/
def Ledger.blank (robots : List Robot) (areas : List Area) (kinds : List Json) :
    Except BookError Ledger := do
  let accounts ← robots.mapM (Account.ofRobot kinds)
  return {
    usages := .ofLast (areas.map fun area => (area.name, AreaUsage.ofArea robots.length area))
    accounts := .ofFirst (accounts.map fun account => (account.name, account)) }

end RobotCity
