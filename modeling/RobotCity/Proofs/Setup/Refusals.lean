import RobotCity.Proofs.NameTable
import RobotCity.Proofs.Setup.Kinds

/-!
# Entries that the books refuse

Once the books are opened, they refuse nothing: a robot holds only areas whose usage is recorded, and
every text among the kinds of items has an entry.  Whether they can be opened depends on the kinds
alone, unless there is no robot.
-/

namespace RobotCity

section Continues

variable {σ τ α : Type}

/-- A check goes on in a state of which something holds, or ends with a fault.  The books do not refuse
an entry. -/
inductive Continues (Holds : σ → Prop) : Except SetupStop σ → Prop
  | goesOn {state : σ} : Holds state → Continues Holds (.ok state)
  | fault {fault : SetupFault} : Continues Holds (.error (.fault fault))

variable {Holds : σ → Prop} {HoldsNext : τ → Prop} {outcome : Except SetupStop σ}

theorem Continues.bind {rest : σ → Except SetupStop τ} (continues : Continues Holds outcome)
    (rest_continues : ∀ state, Holds state → Continues HoldsNext (rest state)) :
    Continues HoldsNext (outcome >>= rest) := by
  cases continues with
  | goesOn holds => exact rest_continues _ holds
  | fault => exact .fault

theorem Continues.holds (continues : Continues Holds outcome) {state : σ}
    (ended : outcome = .ok state) : Holds state := by
  rw [ended] at continues
  cases continues with
  | goesOn holds => exact holds

theorem Continues.not_refused (continues : Continues Holds outcome) (error : BookError) :
    outcome ≠ .error (.refused error) := by
  rintro rfl
  cases continues

theorem continues_stopAt (found : Option SetupFault) : Continues (fun _ => True) (stopAt found) := by
  cases found with
  | none => exact .goesOn trivial
  | some fault => exact .fault

/-- What each step keeps, a whole run keeps. -/
theorem continues_foldlM {step : σ → α → Except SetupStop σ} (items : List α) {state : σ}
    (holds : Holds state)
    (step_continues : ∀ state item, Holds state → Continues Holds (step state item)) :
    Continues Holds (items.foldlM step state) := by
  induction items generalizing state with
  | nil => exact .goesOn holds
  | cons item rest ih =>
      rw [List.foldlM_cons]
      exact (step_continues state item holds).bind fun next next_holds => ih next_holds

theorem continues_eachRecord {Sound : Ledger → Prop}
    {action : Ledger → Nat → α → Except SetupStop Ledger} (records : List α) {ledger : Ledger}
    (position : Nat) (sound : Sound ledger)
    (step_continues : ∀ ledger position record, Sound ledger →
      Continues Sound (action ledger position record)) :
    Continues Sound (eachRecord action ledger position records) := by
  rw [eachRecord_eq_foldlM]
  exact continues_foldlM _ sound fun ledger entry => step_continues ledger entry.2 entry.1

end Continues

/-- Every text among some kinds has an entry in an inventory. -/
def Inventory.Stocks (kinds : List Json) (inventory : Inventory) : Prop :=
  ∀ kind : Text, .string kind ∈ kinds → (inventory.settled? (.string kind)).isSome

/-- Every area that a robot holds has a usage, and every text among the kinds an entry. -/
structure Account.Sound (usages : NameTable AreaUsage) (kinds : List Json) (account : Account) :
    Prop where
  areas : ∀ area ∈ account.areas, (usages.find? area).isSome
  stocks : account.inventory.Stocks kinds

/-- All accounts in the books are sound. -/
def Ledger.Sound (kinds : List Json) (ledger : Ledger) : Prop :=
  ∀ name account, ledger.accounts.find? name = some account → account.Sound ledger.usages kinds

theorem Inventory.Stocks.enter {kinds : List Json} {inventory : Inventory}
    (stocks : inventory.Stocks kinds) (kind : Json) (quantity : Int) :
    (inventory.enter kind quantity).Stocks kinds := by
  intro other known
  rw [settled?_enter, Option.isSome_map]
  exact stocks other known

namespace Ledger

variable {kinds : List Json} {ledger : Ledger}

/-- Books stay sound if usages are kept and one account is replaced by a sound one. -/
theorem Sound.set (sound : ledger.Sound kinds) {usages : NameTable AreaUsage}
    (kept : ∀ area, (ledger.usages.find? area).isSome → (usages.find? area).isSome) (name : Text)
    {account : Account} (account_sound : account.Sound usages kinds) :
    Sound kinds { usages, accounts := ledger.accounts.set name account } := by
  intro other found_account found
  rw [NameTable.find?_set] at found
  split at found
  · cases found
    exact account_sound
  · obtain ⟨areas, stocks⟩ := sound other found_account found
    exact ⟨fun area held => kept area (areas area held), stocks⟩

theorem grant_continues (sound : ledger.Sound kinds) (position : Nat) (record : Grant) :
    Continues (Sound kinds) (ledger.grant position record) := by
  rw [grant]
  split
  · exact .fault
  · rename_i usage used
    split
    · exact .fault
    · rename_i account found
      obtain ⟨areas, stocks⟩ := sound _ _ found
      split
      · exact .fault
      · rename_i room
        split
        · exact .fault
        · -- the check has asked for room, so that the area can be claimed
          rw [AreaUsage.claim, if_neg room]
          have kept : ∀ area, (ledger.usages.find? area).isSome →
              ((ledger.usages.set record.area
                { usage with current := usage.current + 1 }).find? area).isSome := by
            intro area there
            rw [NameTable.find?_set]
            split
            · rfl
            · exact there
          refine .goesOn (sound.set kept record.robot ⟨?_, stocks⟩)
          intro area held
          rcases List.mem_append.mp held with before | now
          · exact kept area (areas area before)
          · exact kept area (by rw [List.mem_singleton.mp now, used]; rfl)

theorem supplyKind_continues {usages : NameTable AreaUsage} {account : Account}
    (sound : account.Sound usages kinds) (position : Nat) (quantity : Int) (kind : Text) :
    Continues (Account.Sound usages kinds) (supplyKind kinds position quantity account kind) := by
  rw [supplyKind]
  split
  · exact .fault
  · rename_i known
    split
    · rename_i missing
      have stocked := sound.stocks kind (not_not.mp known)
      rw [Inventory.settled?, missing] at stocked
      cases stocked
    · exact .fault
    · exact .goesOn ⟨sound.areas, sound.stocks.enter _ _⟩

theorem supply_continues (sound : ledger.Sound kinds) (position : Nat) (record : Supply) :
    Continues (Sound kinds) (supply kinds ledger position record) := by
  rw [supply]
  split
  · exact .fault
  · rename_i account found
    have supplied := continues_foldlM record.kinds (sound _ _ found) fun next kind next_sound =>
      supplyKind_continues next_sound position record.quantity kind
    exact supplied.bind fun next next_sound =>
      .goesOn (sound.set (fun _ there => there) record.robot next_sound)

theorem covers_ok (point : Point) {areas : List Text}
    (used : ∀ area ∈ areas, (ledger.usages.find? area).isSome) :
    ∃ covered, ledger.covers point areas = .ok covered := by
  induction areas with
  | nil => exact ⟨false, rfl⟩
  | cons area rest ih =>
      obtain ⟨here, later⟩ := List.forall_mem_cons.mp used
      obtain ⟨usage, found⟩ := Option.isSome_iff_exists.mp here
      rw [covers, found]
      dsimp only
      split
      · exact ⟨true, rfl⟩
      · exact ih later

theorem place_continues (sound : ledger.Sound kinds) (position : Nat) (record : Origin) :
    Continues (Sound kinds) (ledger.place position record) := by
  rw [place]
  split
  · exact .fault
  · rename_i account found
    obtain ⟨areas, stocks⟩ := sound _ _ found
    split
    · exact .fault
    · obtain ⟨covered, looked_up⟩ := covers_ok record.point areas
      rw [looked_up]
      cases covered with
      | false => exact .fault
      | true =>
          dsimp only
          split
          · exact .fault
          · exact .goesOn (sound.set (fun _ there => there) record.robot ⟨areas, stocks⟩)

/-- The first of some kinds for which no entry can be made. -/
def unusable? (kinds : List Json) : Option Json :=
  kinds.find? fun kind => !kind.isKey

theorem unusable?_map_string (kinds : List Text) : unusable? (kinds.map .string) = none := by
  simp [unusable?, Json.isKey]

end Ledger

theorem Inventory.extend_eq_error {kinds : List Json} {kind : Json}
    (first : Ledger.unusable? kinds = some kind) (inventory : Inventory) :
    inventory.extend kinds = .error (.unusableKind kind.kind) := by
  induction kinds generalizing inventory with
  | nil => cases first
  | cons other rest ih =>
      rw [Ledger.unusable?, List.find?_cons] at first
      cases usable : other.isKey with
      | false =>
          rw [usable] at first
          cases first
          simp [extend, usable]
      | true =>
          rw [usable] at first
          rw [extend, if_pos usable]
          split
          · exact ih first inventory
          · exact ih first _

theorem Inventory.exists_extend {kinds : List Json} (usable : Ledger.unusable? kinds = none)
    (inventory : Inventory) : ∃ extended, inventory.extend kinds = .ok extended := by
  rcases inventory.extend_ok_or_refused kinds with extended | ⟨kind, known, no_key, -⟩
  · exact extended
  · have is_key := List.find?_eq_none.mp usable kind known
    exact absurd (by simpa using is_key) no_key

namespace Ledger

variable {kinds : List Json} {robots : List Robot} {areas : List Area}

/-- The books cannot be opened for a robot if no entry can be made for one of the kinds. -/
theorem blank_eq_error (robots_exist : robots ≠ []) {kind : Json}
    (first : unusable? kinds = some kind) :
    Ledger.blank robots areas kinds = .error (.unusableKind kind.kind) := by
  obtain ⟨robot, rest, rfl⟩ := List.exists_cons_of_ne_nil robots_exist
  rw [blank, List.mapM_cons, Account.ofRobot, Inventory.ofKinds, Inventory.extend_eq_error first]
  rfl

/-- The books can be opened otherwise, and are sound. -/
theorem exists_blank (areas : List Area) (usable : unusable? kinds = none ∨ robots = []) :
    ∃ ledger, Ledger.blank robots areas kinds = .ok ledger ∧ ledger.Sound kinds := by
  rcases usable with usable | rfl
  · obtain ⟨inventory, opened⟩ := Inventory.exists_extend usable []
    have account_opened : Account.ofRobot kinds = fun robot =>
        pure { name := robot.name, areas := [], inventory, origin := none } := by
      funext robot
      rw [Account.ofRobot, Inventory.ofKinds, opened]
      rfl
    have stocks : inventory.Stocks kinds := by
      intro kind known
      rw [Inventory.settled?_extend (List.forall_mem_nil _) opened (.inl known)]
      rfl
    refine ⟨_, by rw [blank, account_opened, List.mapM_pure]; rfl, ?_⟩
    intro name account found
    have declared := NameTable.mem_of_mem_ofFirst (NameTable.mem_entries_of_find? found)
    rw [List.map_map] at declared
    obtain ⟨robot, -, same⟩ := List.mem_map.mp declared
    cases same
    exact ⟨List.forall_mem_nil _, stocks⟩
  · refine ⟨_, rfl, ?_⟩
    intro name account found
    cases found

end Ledger

namespace Setup

variable {kinds : List Json} {robots : List Robot} {areas : List Area}

section Books

variable (robots : List Robot) (areas : List Area) (kinds : List Json)

/-- The books after some areas have been given out. -/
def afterGrants (grants : List Grant) : Except SetupStop Ledger := do
  let ledger ← (Ledger.blank robots areas kinds).mapError .refused
  ledger.grantAll grants

/-- The books after the areas of a setup and some items have been given out. -/
def afterSupplies (setup : Setup) (supplies : List Supply) : Except SetupStop Ledger := do
  let ledger ← afterGrants robots areas kinds setup.grants
  stopAt ledger.idle?
  ledger.supplyAll kinds supplies

/-- The books after the areas and items of a setup have been given out and some robots have started. -/
def afterOrigins (setup : Setup) (origins : List Origin) : Except SetupStop Ledger := do
  let ledger ← setup.afterSupplies robots areas kinds setup.supplies
  ledger.placeAll origins

/-- A check takes the books from one pass to the next. -/
theorem carryOut_eq_afterOrigins (setup : Setup) :
    setup.carryOut robots areas kinds =
      setup.afterOrigins robots areas kinds setup.origins >>= fun ledger =>
        stopAt ledger.unplaced? >>= fun _ => .ok ledger := by
  simp only [carryOut, afterOrigins, afterSupplies, afterGrants, bind_assoc]
  rfl

end Books

variable {opened : Ledger}

theorem afterGrants_continues (blank : Ledger.blank robots areas kinds = .ok opened)
    (sound : opened.Sound kinds) (grants : List Grant) :
    Continues (Ledger.Sound kinds) (afterGrants robots areas kinds grants) := by
  rw [afterGrants, blank]
  exact continues_eachRecord grants 1 sound
    fun _ position record sound => Ledger.grant_continues sound position record

theorem afterSupplies_continues (blank : Ledger.blank robots areas kinds = .ok opened)
    (sound : opened.Sound kinds) (setup : Setup) (supplies : List Supply) :
    Continues (Ledger.Sound kinds) (setup.afterSupplies robots areas kinds supplies) := by
  apply (afterGrants_continues blank sound setup.grants).bind
  intro granted granted_sound
  apply (continues_stopAt granted.idle?).bind
  intro _ _
  exact continues_eachRecord supplies 1 granted_sound
    fun _ position record sound => Ledger.supply_continues sound position record

theorem afterOrigins_continues (blank : Ledger.blank robots areas kinds = .ok opened)
    (sound : opened.Sound kinds) (setup : Setup) (origins : List Origin) :
    Continues (Ledger.Sound kinds) (setup.afterOrigins robots areas kinds origins) := by
  apply (afterSupplies_continues blank sound setup setup.supplies).bind
  intro supplied supplied_sound
  exact continues_eachRecord origins 1 supplied_sound
    fun _ position record sound => Ledger.place_continues sound position record

/-- With the books open, a check comes to an end. -/
theorem carryOut_continues (blank : Ledger.blank robots areas kinds = .ok opened)
    (sound : opened.Sound kinds) (setup : Setup) :
    Continues (Ledger.Sound kinds) (setup.carryOut robots areas kinds) := by
  rw [carryOut_eq_afterOrigins]
  apply (afterOrigins_continues blank sound setup setup.origins).bind
  intro placed placed_sound
  exact (continues_stopAt placed.unplaced?).bind fun _ _ => .goesOn placed_sound

/-- A setup is decided if the books can be opened, whatever its records are. -/
theorem exists_fault? (setup : Setup) (areas : List Area)
    (usable : Ledger.unusable? kinds = none ∨ robots = []) :
    ∃ found, setup.fault? robots areas kinds = .ok found := by
  obtain ⟨ledger, opened, sound⟩ := Ledger.exists_blank areas usable
  have continues := carryOut_continues opened sound setup
  rw [fault?]
  generalize setup.carryOut robots areas kinds = outcome at continues ⊢
  cases continues with
  | goesOn => exact ⟨none, rfl⟩
  | @fault fault => exact ⟨some fault, rfl⟩

theorem fault?_eq_error (setup : Setup) (robots_exist : robots ≠ []) {kind : Json}
    (first : Ledger.unusable? kinds = some kind) :
    setup.fault? robots areas kinds = .error (.unusableKind kind.kind) := by
  rw [fault?, carryOut, Ledger.blank_eq_error robots_exist first]
  rfl

end Setup
end RobotCity
