import RobotCity.Proofs.Renaming.Declarations

/-!
# Renamed setups

A setup that is carried out under new names leaves the same books under the new names, and stops at
the same record.
-/

namespace RobotCity

section Outcomes

variable {ε ε' α α' β β' : Type}

/-- An outcome with what went wrong and what came out altered. -/
def relabel (error : ε → ε') (value : α → α') : Except ε α → Except ε' α'
  | .error reason => .error (error reason)
  | .ok result => .ok (value result)

theorem relabel_bind {error : ε → ε'} {value : α → α'} {next : β → β'} (outcome : Except ε α)
    {rest : α → Except ε β} {rest' : α' → Except ε' β'}
    (step : ∀ result, rest' (value result) = relabel error next (rest result)) :
    relabel error value outcome >>= rest' = relabel error next (outcome >>= rest) := by
  cases outcome with
  | error reason => rfl
  | ok result => exact step result

theorem foldlM_relabel {error : ε → ε'} {value : α → α'} {item : β → β'}
    {step : α → β → Except ε α} {step' : α' → β' → Except ε' α'}
    (step_relabel : ∀ state next, step' (value state) (item next) =
      relabel error value (step state next)) (state : α) (items : List β) :
    (items.map item).foldlM step' (value state) = relabel error value (items.foldlM step state) := by
  induction items generalizing state with
  | nil => rfl
  | cons next rest ih =>
      rw [List.map_cons, List.foldlM_cons, List.foldlM_cons, step_relabel]
      exact relabel_bind _ ih

theorem mapM_relabel {error : ε → ε'} {value : α → α'} {item : β → β'}
    {each : β → Except ε α} {each' : β' → Except ε' α'}
    (each_relabel : ∀ next, each' (item next) = relabel error value (each next))
    (items : List β) :
    (items.map item).mapM each' = relabel error (List.map value) (items.mapM each) := by
  induction items with
  | nil => rfl
  | cons next rest ih =>
      rw [List.map_cons, List.mapM_cons, List.mapM_cons, each_relabel, ih]
      refine relabel_bind _ fun first => ?_
      exact relabel_bind _ fun others => rfl

end Outcomes

variable {names : Renaming}

/-- The usage of an area under its new name. -/
def AreaUsage.rename (names : Renaming) (usage : AreaUsage) : AreaUsage :=
  { usage with area := usage.area.rename names }

/-- An account under new names. -/
def Account.rename (names : Renaming) (account : Account) : Account :=
  { account with
    name := names.ofRobot account.name
    areas := account.areas.map names.ofArea }

/-- All books under new names. -/
def Ledger.rename (names : Renaming) (ledger : Ledger) : Ledger :=
  { usages := ledger.usages.rename names.ofArea (AreaUsage.rename names)
    accounts := ledger.accounts.rename names.ofRobot (Account.rename names) }

/-- An early end of a check with everything that it names renamed. -/
def SetupStop.rename (names : Renaming) : SetupStop → SetupStop
  | .fault found => .fault (found.rename names)
  | .refused error => .refused (error.rename names)

theorem AreaUsage.claim_rename (usage : AreaUsage) :
    (usage.rename names).claim =
      relabel (BookError.rename names) (AreaUsage.rename names) usage.claim := by
  by_cases full : usage.isFull
  · rw [claim, claim, if_pos full, if_pos (show (usage.rename names).isFull from full)]
    rfl
  · rw [claim, claim, if_neg full, if_neg (show ¬(usage.rename names).isFull from full)]
    rfl

theorem Inventory.extend_relabel (known : Inventory) (kinds : List Json) :
    known.extend kinds = relabel (BookError.rename names) id (known.extend kinds) := by
  induction kinds generalizing known with
  | nil => rfl
  | cons kind rest ih =>
      rw [extend]
      split
      · split
        · exact ih known
        · exact ih _
      · rfl

theorem Account.ofRobot_rename (kinds : List Json) (robot : Robot) :
    Account.ofRobot kinds (robot.rename names) =
      relabel (BookError.rename names) (Account.rename names) (Account.ofRobot kinds robot) := by
  rw [Account.ofRobot, Inventory.ofKinds, Inventory.extend_relabel]
  exact relabel_bind _ fun inventory => rfl

namespace Ledger

variable {ledger : Ledger}

@[simp]
theorem find?_usages_rename (area : Text) :
    (ledger.rename names).usages.find? (names.ofArea area) =
      (ledger.usages.find? area).map (AreaUsage.rename names) :=
  NameTable.find?_rename names.area_injective _ _ _

@[simp]
theorem find?_accounts_rename (robot : Text) :
    (ledger.rename names).accounts.find? (names.ofRobot robot) =
      (ledger.accounts.find? robot).map (Account.rename names) :=
  NameTable.find?_rename names.robot_injective _ _ _

theorem values_accounts_rename :
    (ledger.rename names).accounts.values = ledger.accounts.values.map (Account.rename names) := by
  simp [rename, NameTable.values, NameTable.rename]

theorem rename_set_account (robot : Text) (account : Account) :
    { ledger.rename names with
      accounts := (ledger.rename names).accounts.set (names.ofRobot robot)
        (account.rename names) } =
      Ledger.rename names { ledger with accounts := ledger.accounts.set robot account } := by
  simp only [rename, NameTable.rename_set names.robot_injective]

/-- Of the books before anything is given out, only the names change. -/
theorem blank_rename (robots : List Robot) (areas : List Area) (kinds : List Json) :
    blank (robots.map (Robot.rename names)) (areas.map (Area.rename names)) kinds =
      relabel (BookError.rename names) (Ledger.rename names) (blank robots areas kinds) := by
  rw [blank, blank, mapM_relabel (Account.ofRobot_rename kinds)]
  refine relabel_bind _ fun accounts => congrArg Except.ok ?_
  simp only [rename, NameTable.rename_ofLast names.area_injective,
    NameTable.rename_ofFirst names.robot_injective, List.length_map, List.map_map]
  rfl

theorem grant_rename (ledger : Ledger) (position : Nat) (record : Grant) :
    (ledger.rename names).grant position (record.rename names) =
      relabel (SetupStop.rename names) (Ledger.rename names) (ledger.grant position record) := by
  obtain ⟨robot, area⟩ := record
  change (ledger.rename names).grant position ⟨names.ofRobot robot, names.ofArea area⟩ = _
  simp only [grant, find?_usages_rename, find?_accounts_rename]
  cases ledger.usages.find? area with
  | none => rfl
  | some usage =>
      cases ledger.accounts.find? robot with
      | none => rfl
      | some account =>
          have full_iff : (usage.rename names).isFull = usage.isFull := rfl
          have held_iff : names.ofArea area ∈ (account.rename names).areas ↔
              area ∈ account.areas := by
            simp [Account.rename, names.area_injective.eq_iff]
          simp only [Option.map_some, full_iff]
          by_cases full : usage.isFull
          · rw [if_pos full, if_pos full]
            rfl
          · rw [if_neg full, if_neg full]
            by_cases held : area ∈ account.areas
            · rw [if_pos held, if_pos (held_iff.mpr held)]
              rfl
            · rw [if_neg held, if_neg (mt held_iff.mp held), usage.claim_rename]
              cases usage.claim with
              | error reason => rfl
              | ok claimed =>
                  simp only [relabel, rename, NameTable.rename_set names.area_injective,
                    NameTable.rename_set names.robot_injective, Account.rename, List.map_append,
                    List.map_singleton]

theorem unused?_rename (ledger : Ledger) :
    (ledger.rename names).unused? = ledger.unused?.map (SetupFault.rename names) := by
  simp only [unused?, rename, NameTable.rename, List.find?_map, Option.map_map]
  rfl

theorem withoutArea?_rename (ledger : Ledger) :
    (ledger.rename names).withoutArea? = ledger.withoutArea?.map (SetupFault.rename names) := by
  have empty_kept (account : Account) :
      (account.rename names).areas.isEmpty = account.areas.isEmpty :=
    List.isEmpty_map
  simp only [withoutArea?, values_accounts_rename, List.find?_map, Option.map_map,
    Function.comp_def, empty_kept]
  rfl

theorem idle?_rename (ledger : Ledger) :
    (ledger.rename names).idle? = ledger.idle?.map (SetupFault.rename names) := by
  rw [idle?, idle?, unused?_rename, withoutArea?_rename, Option.map_or]

theorem supplyKind_rename (kinds : List Json) (position : Nat) (quantity : Int) (account : Account)
    (kind : Text) :
    supplyKind kinds position quantity (account.rename names) kind =
      relabel (SetupStop.rename names) (Account.rename names)
        (supplyKind kinds position quantity account kind) := by
  have inventory_kept : (account.rename names).inventory = account.inventory := rfl
  rw [supplyKind, supplyKind, inventory_kept]
  split
  · rfl
  · rcases account.inventory.find? (.string kind) with _ | ⟨entered, _ | quantity⟩ <;> rfl

theorem supply_rename (kinds : List Json) (ledger : Ledger) (position : Nat) (record : Supply) :
    (ledger.rename names).supply kinds position (record.rename names) =
      relabel (SetupStop.rename names) (Ledger.rename names)
        (ledger.supply kinds position record) := by
  simp only [supply, Supply.rename, find?_accounts_rename]
  cases ledger.accounts.find? record.robot with
  | none => rfl
  | some account =>
      have supplied := foldlM_relabel (@supplyKind_rename names kinds position record.quantity)
        account record.kinds
      rw [List.map_id'] at supplied
      simp only [Option.map_some]
      rw [supplied]
      exact relabel_bind _ fun given => congrArg Except.ok (rename_set_account record.robot given)

theorem covers_rename (ledger : Ledger) (point : Point) (areas : List Text) :
    (ledger.rename names).covers point (areas.map names.ofArea) =
      relabel (BookError.rename names) id (ledger.covers point areas) := by
  induction areas with
  | nil => rfl
  | cons area rest ih =>
      rw [List.map_cons, covers, covers, find?_usages_rename, ih]
      cases ledger.usages.find? area with
      | none => rfl
      | some usage =>
          simp only [Option.map_some]
          by_cases inside : usage.area.extent.contains point
          · rw [if_pos inside, if_pos (show (usage.rename names).area.extent.contains point
              from inside)]
            rfl
          · rw [if_neg inside, if_neg (show ¬(usage.rename names).area.extent.contains point
              from inside)]

theorem starter?_rename (ledger : Ledger) (point : Point) :
    (ledger.rename names).starter? point =
      (ledger.starter? point).map (Account.rename names) := by
  simp only [starter?, values_accounts_rename, List.find?_map]
  rfl

theorem place_rename (ledger : Ledger) (position : Nat) (record : Origin) :
    (ledger.rename names).place position (record.rename names) =
      relabel (SetupStop.rename names) (Ledger.rename names) (ledger.place position record) := by
  simp only [place, Origin.rename, find?_accounts_rename]
  cases ledger.accounts.find? record.robot with
  | none => rfl
  | some account =>
      have placed_kept : (account.rename names).origin = account.origin := rfl
      simp only [Option.map_some, placed_kept]
      by_cases placed : account.origin.isSome
      · rw [if_pos placed, if_pos placed]
        rfl
      · rw [if_neg placed, if_neg placed, show (account.rename names).areas =
          account.areas.map names.ofArea from rfl, covers_rename]
        rcases ledger.covers record.point account.areas with error | _ | _
        · rfl
        · rfl
        · simp only [relabel, id, starter?_rename]
          cases ledger.starter? record.point with
          | some other => rfl
          | none =>
              exact congrArg Except.ok
                (rename_set_account record.robot { account with origin := some record.point })

theorem unplaced?_rename (ledger : Ledger) :
    (ledger.rename names).unplaced? = ledger.unplaced?.map (SetupFault.rename names) := by
  simp only [unplaced?, values_accounts_rename, List.find?_map, Option.map_map]
  rfl

end Ledger

theorem eachRecord_rename {α : Type} {alter : α → α}
    {action : Ledger → Nat → α → Except SetupStop Ledger}
    (action_rename : ∀ ledger position record,
      action (ledger.rename names) position (alter record) =
        relabel (SetupStop.rename names) (Ledger.rename names) (action ledger position record))
    (ledger : Ledger) (position : Nat) (records : List α) :
    eachRecord action (ledger.rename names) position (records.map alter) =
      relabel (SetupStop.rename names) (Ledger.rename names)
        (eachRecord action ledger position records) := by
  induction records generalizing ledger position with
  | nil => rfl
  | cons record rest ih =>
      rw [List.map_cons, eachRecord, eachRecord, action_rename]
      exact relabel_bind _ fun next => ih next (position + 1)

theorem stopAt_rename (found : Option SetupFault) :
    stopAt (found.map (SetupFault.rename names)) =
      relabel (SetupStop.rename names) id (stopAt found) := by
  cases found <;> rfl

namespace Setup

/-- A setup is carried out in the same way under new names. -/
theorem carryOut_rename (setup : Setup) (robots : List Robot) (areas : List Area)
    (kinds : List Json) :
    (setup.rename names).carryOut (robots.map (Robot.rename names))
        (areas.map (Area.rename names)) kinds =
      relabel (SetupStop.rename names) (Ledger.rename names)
        (setup.carryOut robots areas kinds) := by
  have blank_renamed :
      (Ledger.blank (robots.map (Robot.rename names)) (areas.map (Area.rename names)) kinds).mapError
          .refused =
        relabel (SetupStop.rename names) (Ledger.rename names)
          ((Ledger.blank robots areas kinds).mapError .refused) := by
    rw [Ledger.blank_rename]
    cases Ledger.blank robots areas kinds <;> rfl
  rw [carryOut, carryOut, blank_renamed]
  refine relabel_bind _ fun blank => ?_
  rw [Ledger.grantAll, rename, eachRecord_rename Ledger.grant_rename]
  refine relabel_bind _ fun granted => ?_
  rw [Ledger.idle?_rename, stopAt_rename]
  refine relabel_bind _ fun _ => ?_
  rw [Ledger.supplyAll, eachRecord_rename (Ledger.supply_rename kinds)]
  refine relabel_bind _ fun supplied => ?_
  rw [Ledger.placeAll, eachRecord_rename Ledger.place_rename]
  refine relabel_bind _ fun placed => ?_
  rw [Ledger.unplaced?_rename, stopAt_rename]
  exact relabel_bind _ fun _ => rfl

theorem fault?_rename (setup : Setup) (robots : List Robot) (areas : List Area)
    (kinds : List Json) :
    (setup.rename names).fault? (robots.map (Robot.rename names))
        (areas.map (Area.rename names)) kinds =
      relabel (BookError.rename names) (Option.map (SetupFault.rename names))
        (setup.fault? robots areas kinds) := by
  rw [fault?, fault?, carryOut_rename]
  rcases setup.carryOut robots areas kinds with (found | error) | ledger <;> rfl

end Setup
end RobotCity
