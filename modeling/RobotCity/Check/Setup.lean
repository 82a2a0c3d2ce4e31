import RobotCity.Bookkeeping.Basic
import RobotCity.Verdict

/-!
# Setups

A setup is checked in four passes: areas are given out; every area and every robot has to take part;
items are given out; and every robot gets a corner of one of its areas to start from.  The first
fault ends the check.
-/

namespace RobotCity

/-- Why a setup is not accepted.  Positions are those of the records, counted from one. -/
inductive SetupFault where
  | unknownArea (area : Text) (position : Nat)
  | unknownHolder (robot : Text) (position : Nat)
  /-- The maximum is one or the number of robots. -/
  | limitExceeded (area : Text) (maximum : Int) (position : Nat)
  | areaTwice (area robot : Text)
  | areaUnused (area : Text)
  | noArea (robot : Text)
  | unknownReceiver (robot : Text) (position : Nat)
  | unknownKind (kind : Text) (position : Nat)
  | kindTwice (kind robot : Text)
  | unknownStarter (robot : Text) (position : Nat)
  | originTwice (robot : Text) (position : Nat)
  | originOutside (robot : Text) (position : Nat)
  | originTaken (earlier later : Text)
  | noOrigin (robot : Text)
  deriving DecidableEq, Repr

namespace SetupFault

/-- The label of a fault. -/
def category : SetupFault → String
  | .unknownArea _ _ | .unknownHolder _ _ | .limitExceeded _ _ _ | .areaTwice _ _ =>
    "Invalid area assignment"
  | .areaUnused _ | .noArea _ => "Unassigned area"
  | .unknownReceiver _ _ | .unknownKind _ _ | .kindTwice _ _ => "Invalid item assignment"
  | .unknownStarter _ _ | .originTwice _ _ | .originOutside _ _ | .originTaken _ _
  | .noOrigin _ => "Invalid initialization"

/-- The explanation of a fault. -/
def context : SetupFault → String
  | .unknownArea area position =>
    s!"Area '{area}' was not declared and is used in area assignment {Text.natText position}"
  | .unknownHolder robot position =>
    s!"Instance '{robot}' was not declared and is used in " ++
      s!"area assignment {Text.natText position}"
  | .limitExceeded area maximum position =>
    s!"The assignment limit ({Text.natText maximum.toNat}) for area '{area}' " ++
      s!"was exceeded in area assignment {Text.natText position}"
  | .areaTwice area robot => s!"Area '{area}' was already assigned to instance '{robot}'"
  | .areaUnused area => s!"Area '{area}' was not assigned to any instance"
  | .noArea robot => s!"Instance '{robot}' has no area assigned"
  | .unknownReceiver robot position =>
    s!"Instance '{robot}' was not declared and is used in " ++
      s!"item assignment {Text.natText position}"
  | .unknownKind kind position =>
    s!"Item kind '{kind}' is not valid and is used in item assignment {Text.natText position}"
  | .kindTwice kind robot =>
    s!"The quantity of item '{kind}' was already assigned to instance '{robot}'"
  | .unknownStarter robot position =>
    s!"Instance '{robot}' was not declared and is used in " ++
      s!"initialization {Text.natText position}"
  | .originTwice robot position =>
    s!"Instance '{robot}' can only have one starting point, second point " ++
      s!"in initialization {Text.natText position}"
  | .originOutside robot position =>
    s!"The starting point of instance '{robot}' does not belong to any of " ++
      s!"its areas in initialization {Text.natText position}"
  | .originTaken earlier later =>
    s!"Instances '{earlier}' and '{later}' have the same starting point"
  | .noOrigin robot => s!"No starting point was assigned to instance '{robot}'"

/-- A fault as it is reported. -/
def report (fault : SetupFault) : Report :=
  .fault fault.category fault.context

end SetupFault

/-- Why the check of a setup ends early. -/
inductive SetupStop where
  /-- The setup has a fault. -/
  | fault (fault : SetupFault)
  /-- The books refuse an entry. -/
  | refused (error : BookError)
  deriving DecidableEq, Repr

/-- A pass over records: an action for each record with its position, counted from one. -/
def eachRecord {α : Type} (action : Ledger → Nat → α → Except SetupStop Ledger) :
    Ledger → Nat → List α → Except SetupStop Ledger
  | ledger, _, [] => .ok ledger
  | ledger, position, record :: rest => do
    let ledger ← action ledger position record
    eachRecord action ledger (position + 1) rest

namespace Ledger

/-- Give an area to a robot. -/
def grant (ledger : Ledger) (position : Nat) (record : Grant) : Except SetupStop Ledger :=
  match ledger.usages.find? record.area with
  | none => .error (.fault (.unknownArea record.area position))
  | some usage =>
    match ledger.accounts.find? record.robot with
    | none => .error (.fault (.unknownHolder record.robot position))
    | some account =>
      if usage.isFull then
        .error (.fault (.limitExceeded record.area usage.maximum position))
      else if record.area ∈ account.areas then
        .error (.fault (.areaTwice record.area account.name))
      else
        match usage.claim with
        | .error error => .error (.refused error)
        | .ok claimed =>
          .ok
            { usages := ledger.usages.set record.area claimed
              accounts := ledger.accounts.set record.robot
                { account with areas := account.areas ++ [record.area] } }

/-- Give out all areas. -/
def grantAll (ledger : Ledger) (records : List Grant) : Except SetupStop Ledger :=
  eachRecord grant ledger 1 records

/-- The first area that no robot holds. -/
def unused? (ledger : Ledger) : Option SetupFault :=
  (ledger.usages.entries.find? fun entry => !entry.2.isUsed).map fun entry => .areaUnused entry.1

/-- The first robot that holds no area. -/
def withoutArea? (ledger : Ledger) : Option SetupFault :=
  (ledger.accounts.values.find? fun account => account.areas.isEmpty).map
    fun account => .noArea account.name

/-- The first area or robot that takes no part. -/
def idle? (ledger : Ledger) : Option SetupFault :=
  ledger.unused?.or ledger.withoutArea?

/-- Give a quantity of one kind of items. -/
def supplyKind (kinds : List Json) (position : Nat) (quantity : Int) (account : Account)
    (kind : Text) : Except SetupStop Account :=
  if .string kind ∉ kinds then .error (.fault (.unknownKind kind position))
  else
    match account.inventory.find? (.string kind) with
    | none => .error (.refused (.noEntry kind))
    | some (_, some _) => .error (.fault (.kindTwice kind account.name))
    | some (_, none) =>
      .ok { account with inventory := account.inventory.enter (.string kind) quantity }

/-- Give items to a robot. -/
def supply (kinds : List Json) (ledger : Ledger) (position : Nat) (record : Supply) :
    Except SetupStop Ledger :=
  match ledger.accounts.find? record.robot with
  | none => .error (.fault (.unknownReceiver record.robot position))
  | some account => do
    let account ← record.kinds.foldlM (supplyKind kinds position record.quantity) account
    return { ledger with accounts := ledger.accounts.set record.robot account }

/-- Give out all items. -/
def supplyAll (kinds : List Json) (ledger : Ledger) (records : List Supply) :
    Except SetupStop Ledger :=
  eachRecord (supply kinds) ledger 1 records

/-- Whether a corner lies in one of some areas. -/
def covers (ledger : Ledger) (point : Point) : List Text → Except BookError Bool
  | [] => .ok false
  | area :: rest =>
    match ledger.usages.find? area with
    | none => .error (.noUsage area)
    | some usage =>
      if usage.area.extent.contains point then .ok true else ledger.covers point rest

/-- The robot that starts at a corner. -/
def starter? (ledger : Ledger) (point : Point) : Option Account :=
  ledger.accounts.values.find? fun account => account.origin = some point

/-- Let a robot start at a corner. -/
def place (ledger : Ledger) (position : Nat) (record : Origin) : Except SetupStop Ledger :=
  match ledger.accounts.find? record.robot with
  | none => .error (.fault (.unknownStarter record.robot position))
  | some account =>
    if account.origin.isSome then .error (.fault (.originTwice account.name position))
    else
      match ledger.covers record.point account.areas with
      | .error error => .error (.refused error)
      | .ok false => .error (.fault (.originOutside account.name position))
      | .ok true =>
        match ledger.starter? record.point with
        | some other => .error (.fault (.originTaken other.name account.name))
        | none =>
          .ok { ledger with
            accounts := ledger.accounts.set record.robot
              { account with origin := some record.point } }

/-- Let all robots start. -/
def placeAll (ledger : Ledger) (records : List Origin) : Except SetupStop Ledger :=
  eachRecord place ledger 1 records

/-- The first robot that starts nowhere. -/
def unplaced? (ledger : Ledger) : Option SetupFault :=
  (ledger.accounts.values.find? fun account => account.origin.isNone).map
    fun account => .noOrigin account.name

end Ledger

/-- End a check if there is a fault. -/
def stopAt : Option SetupFault → Except SetupStop Unit
  | some fault => .error (.fault fault)
  | none => .ok ()

/-- Carry a setup out in the books.  The result shows the books of a setup without a fault. -/
def Setup.carryOut (setup : Setup) (robots : List Robot) (areas : List Area) (kinds : List Json) :
    Except SetupStop Ledger := do
  let ledger ← (Ledger.blank robots areas kinds).mapError .refused
  let ledger ← ledger.grantAll setup.grants
  stopAt ledger.idle?
  let ledger ← ledger.supplyAll kinds setup.supplies
  let ledger ← ledger.placeAll setup.origins
  stopAt ledger.unplaced?
  return ledger

/-- The first fault of a setup, unless the books refuse an entry. -/
def Setup.fault? (setup : Setup) (robots : List Robot) (areas : List Area) (kinds : List Json) :
    Except BookError (Option SetupFault) :=
  match setup.carryOut robots areas kinds with
  | .ok _ => .ok none
  | .error (.fault fault) => .ok (some fault)
  | .error (.refused error) => .error error

end RobotCity
