import RobotCity.Proofs.Setup.Balance
import RobotCity.Proofs.Setup.Refusals

/-!
# What a check looks up

A record may name an area, a robot or a kind of items that is not declared, which is a fault of the
setup.  What the books themselves refer to is always there: an area that is given out has room, a kind
that is known has an entry in every inventory, and an area that a robot holds has a usage.  So the check
of a setup comes to a verdict, even if areas or robots share their names.
-/

namespace RobotCity
namespace Setup

/-- What the books refer to is there whenever a check of the setup looks it up. -/
structure FindsEntries (setup : Setup) (robots : List Robot) (areas : List Area)
    (kinds : List Json) : Prop where
  /-- No area is entered in the books that has no room. -/
  room : ∀ grants ledger, afterGrants robots areas kinds grants = .ok ledger →
    ∀ position record error, ledger.grant position record ≠ .error (.refused error)
  /-- Every kind that is known has an entry in the inventory of a robot, also in the midst of a record. -/
  entries : ∀ supplies ledger, setup.afterSupplies robots areas kinds supplies = .ok ledger →
    ∀ (record : Supply) (account : Account),
      ledger.accounts.find? record.robot = some account →
    ∀ (position : Nat) (front : List Text) (reached : Account),
      front.foldlM (Ledger.supplyKind kinds position record.quantity) account = .ok reached →
    ∀ kind : Text, .string kind ∈ kinds → (reached.inventory.find? (.string kind)).isSome
  /-- Every area that a robot holds has a usage. -/
  usages : ∀ origins ledger, setup.afterOrigins robots areas kinds origins = .ok ledger →
    ∀ robot account, ledger.accounts.find? robot = some account →
    ∀ area ∈ account.areas, (ledger.usages.find? area).isSome

variable {robots : List Robot} {areas : List Area} {kinds : List Json} {opened : Ledger}

theorem findsEntries_of_blank (blank : Ledger.blank robots areas kinds = .ok opened)
    (sound : opened.Sound kinds) (setup : Setup) : setup.FindsEntries robots areas kinds := by
  constructor
  case room =>
    intro grants ledger ended position record
    have granted_sound := (afterGrants_continues blank sound grants).holds ended
    exact (Ledger.grant_continues granted_sound position record).not_refused
  case entries =>
    intro supplies ledger ended record account found position front reached run kind known
    have supplied_sound := (afterSupplies_continues blank sound setup supplies).holds ended
    have run_continues := continues_foldlM front (supplied_sound _ _ found)
      fun _ kind sound => Ledger.supplyKind_continues sound position record.quantity kind
    have stocked := (run_continues.holds run).stocks kind known
    rwa [Inventory.settled?, Option.isSome_map] at stocked
  case usages =>
    intro origins ledger ended robot account found
    have placed_sound := (afterOrigins_continues blank sound setup origins).holds ended
    exact (placed_sound robot account found).areas

/-- Where kinds of items are texts, the check of a setup comes to a verdict, and whatever it looks up on
the way is there. -/
theorem lookups_succeed (setup : Setup) (robots : List Robot) (areas : List Area)
    (kinds : List Text) :
    (∃ found, setup.fault? robots areas (kinds.map .string) = .ok found) ∧
      setup.FindsEntries robots areas (kinds.map .string) := by
  have usable := Ledger.unusable?_map_string kinds
  obtain ⟨opened, blank, sound⟩ : ∃ opened,
      Ledger.blank robots areas (kinds.map .string) = .ok opened ∧
        opened.Sound (kinds.map .string) := Ledger.exists_blank areas (.inl usable)
  exact ⟨setup.exists_fault? areas (.inl usable), findsEntries_of_blank blank sound setup⟩

/-- A setup for robots and areas of which some share their names. -/
def sharedNames : Setup :=
  { grants := [⟨"r1", "north"⟩, ⟨"r2", "south"⟩, ⟨"r2", "north"⟩]
    supplies := [⟨"r1", ["flower"], 0⟩]
    origins := [⟨"r2", ⟨4, 9⟩⟩, ⟨"r1", ⟨9, 9⟩⟩] }

theorem sharedNames_looked_up :
    (∃ found, sharedNames.fault? Ledger.namesakes Ledger.patches [.string "flower"] = .ok found) ∧
      ∃ ledger account,
        sharedNames.afterOrigins Ledger.namesakes Ledger.patches [.string "flower"]
          [⟨"r2", ⟨4, 9⟩⟩] = .ok ledger ∧
        ledger.accounts.find? "r2" = some account ∧ ("north" : Text) ∈ account.areas ∧
        (ledger.usages.find? "north").isSome := by
  obtain ⟨ledger, account, ended, found, held⟩ : ∃ ledger account,
      sharedNames.afterOrigins Ledger.namesakes Ledger.patches [.string "flower"]
        [⟨"r2", ⟨4, 9⟩⟩] = .ok ledger ∧
      ledger.accounts.find? "r2" = some account ∧ ("north" : Text) ∈ account.areas :=
    ⟨_, _, rfl, rfl, by decide⟩
  obtain ⟨decided, finds⟩ := lookups_succeed sharedNames Ledger.namesakes Ledger.patches ["flower"]
  exact ⟨decided, ledger, account, ended, found, held, finds.usages _ _ ended _ _ found _ held⟩

end Setup
end RobotCity
