import Mathlib.Data.List.Forall2
import RobotCity.Check.Setup
import RobotCity.Proofs.Setup.Runs

/-!
# More kinds of items

A setup that is carried out is also carried out where robots may carry more kinds of items, if the
books can have an entry for each.  The books of the two runs differ in nothing but entries for kinds
that only the second one knows, so that each step of the first run is followed by the second.
-/

namespace RobotCity

/-- The books refuse one of some kinds since no entry can be made for a value like it. -/
def Json.RefusedAmong {α : Type} (kinds : List Json) (outcome : Except BookError α) : Prop :=
  ∃ kind ∈ kinds, ¬kind.isKey ∧ outcome = .error (.unusableKind kind.kind)

theorem Json.RefusedAmong.of_rest {α : Type} {kinds : List Json} {outcome : Except BookError α}
    (refused : RefusedAmong kinds outcome) (first : Json) : RefusedAmong (first :: kinds) outcome := by
  obtain ⟨kind, known, no_key, stopped⟩ := refused
  exact ⟨kind, List.mem_cons_of_mem first known, no_key, stopped⟩

namespace Inventory

variable {inventory : Inventory}

/-- What is settled of a kind: nothing if the kind has no entry, and whether there is a quantity if
it has one. -/
def settled? (inventory : Inventory) (kind : Json) : Option (Option Int) :=
  (inventory.find? kind).map (·.2)

theorem settled?_cons (own other : Json) (old : Option Int) :
    settled? ((own, old) :: inventory) other =
      if own.asKey = other.asKey then some old else inventory.settled? other := by
  by_cases here : own.asKey = other.asKey <;> simp [settled?, find?, here]

theorem settled?_append_singleton (inventory : Inventory) (kind other : Json) :
    settled? (inventory ++ [(kind, none)]) other =
      (inventory.settled? other).or (if kind.asKey = other.asKey then some none else none) := by
  rw [settled?, find?, List.find?_append, List.find?_singleton, Option.map_or]
  simp only [decide_eq_true_eq]
  split <;> rfl

theorem settled?_enter (inventory : Inventory) (kind other : Json) (quantity : Int) :
    (inventory.enter kind quantity).settled? other =
      (inventory.settled? other).map
        fun old => if other.asKey = kind.asKey then some quantity else old := by
  induction inventory with
  | nil => rfl
  | cons entry rest ih =>
      obtain ⟨own, old⟩ := entry
      have entered : Inventory.enter ((own, old) :: rest) kind quantity =
          (own, if own.asKey = kind.asKey then some quantity else old) ::
            Inventory.enter rest kind quantity := by
        rw [enter, List.map_cons]
        dsimp only
        split <;> rfl
      rw [entered, settled?_cons, settled?_cons, ih]
      by_cases here : own.asKey = other.asKey
      · rw [if_pos here, if_pos here, here, Option.map_some]
      · rw [if_neg here, if_neg here]

/-- Only a kind that cannot have an entry is refused. -/
theorem extend_ok_or_refused (inventory : Inventory) (kinds : List Json) :
    (∃ extended, inventory.extend kinds = .ok extended) ∨
      Json.RefusedAmong kinds (inventory.extend kinds) := by
  induction kinds generalizing inventory with
  | nil => exact .inl ⟨inventory, rfl⟩
  | cons kind rest ih =>
      rw [extend]
      split
      · split
        · exact (ih inventory).imp id fun refused => refused.of_rest kind
        · exact (ih _).imp id fun refused => refused.of_rest kind
      · rename_i no_key
        exact .inr ⟨kind, List.mem_cons_self, no_key, rfl⟩

theorem settled?_extend {kinds : List Json} {extended : Inventory}
    (open_entries : ∀ entry ∈ inventory, entry.2 = none)
    (ended : inventory.extend kinds = .ok extended) {kind : Json}
    (known : kind ∈ kinds ∨ inventory.settled? kind = some none) :
    extended.settled? kind = some none := by
  induction kinds generalizing inventory with
  | nil =>
      cases ended
      exact known.resolve_left List.not_mem_nil
  | cons first rest ih =>
      rw [extend] at ended
      split at ended
      case isFalse => cases ended
      split at ended
      · rename_i entered
        refine ih open_entries ended ?_
        rcases known with in_kinds | settled
        · rcases List.mem_cons.mp in_kinds with rfl | later
          · obtain ⟨entry, found⟩ := Option.isSome_iff_exists.mp entered
            have unsettled := open_entries entry (List.mem_of_find?_eq_some found)
            exact .inr (by rw [settled?, found, Option.map_some, unsettled])
          · exact .inl later
        · exact .inr settled
      · rename_i missing
        refine ih (fun entry member => ?_) ended ?_
        · rcases List.mem_append.mp member with old | new
          · exact open_entries entry old
          · rw [List.mem_singleton.mp new]
        · rw [settled?_append_singleton]
          rcases known with in_kinds | settled
          · rcases List.mem_cons.mp in_kinds with rfl | later
            · refine .inr ?_
              rw [settled?, Option.not_isSome_iff_eq_none.mp missing]
              simp
            · exact .inl later
          · exact .inr (by rw [settled, Option.some_or])

end Inventory

/-! ## Books -/

/-- An account says of some kinds what another one says, and is like it in everything else. -/
structure Account.Follows (kinds : List Json) (account wider : Account) : Prop where
  name : wider.name = account.name
  areas : wider.areas = account.areas
  origin : wider.origin = account.origin
  settled : ∀ kind ∈ kinds, wider.inventory.settled? kind = account.inventory.settled? kind

/-- Entries of accounts under the same names, each of which follows the other. -/
def Account.EntriesFollow (kinds : List Json) :
    List (Text × Account) → List (Text × Account) → Prop :=
  List.Forall₂ fun entry wider => wider.1 = entry.1 ∧ entry.2.Follows kinds wider.2

/-- Books with the same usages of areas and with accounts that follow each other. -/
structure Ledger.Follows (kinds : List Json) (ledger wider : Ledger) : Prop where
  usages : wider.usages = ledger.usages
  accounts : Account.EntriesFollow kinds ledger.accounts.entries wider.accounts.entries

section Entries

variable {kinds : List Json} {entries wider : List (Text × Account)}

theorem lookup_follows (follow : Account.EntriesFollow kinds entries wider) {name : Text}
    {account : Account} (found : entries.lookup name = some account) :
    ∃ other, wider.lookup name = some other ∧ account.Follows kinds other := by
  induction follow with
  | nil => cases found
  | @cons entry other rest others alike _ ih =>
      obtain ⟨own, account'⟩ := entry
      obtain ⟨own', other'⟩ := other
      obtain ⟨rfl, follows⟩ := alike
      rw [NameTable.lookup_cons_eq_if] at found ⊢
      split
      · rename_i here
        rw [if_pos here] at found
        cases found
        exact ⟨other', rfl, follows⟩
      · rename_i elsewhere
        rw [if_neg elsewhere] at found
        exact ih found

theorem lookup_missing (follow : Account.EntriesFollow kinds entries wider) {name : Text}
    (missing : entries.lookup name = none) : wider.lookup name = none := by
  induction follow with
  | nil => rfl
  | @cons entry other rest others alike _ ih =>
      obtain ⟨own, account⟩ := entry
      obtain ⟨own', account'⟩ := other
      obtain ⟨rfl, -⟩ := alike
      rw [NameTable.lookup_cons_eq_if] at missing ⊢
      split at missing
      · cases missing
      · rename_i elsewhere
        rw [if_neg elsewhere, ih missing]

theorem setEntry_follows (follow : Account.EntriesFollow kinds entries wider) (name : Text)
    {account account' : Account} (follows : account.Follows kinds account') :
    Account.EntriesFollow kinds (NameTable.setEntry name account entries)
      (NameTable.setEntry name account' wider) := by
  induction follow with
  | nil => exact .cons ⟨rfl, follows⟩ .nil
  | @cons entry other rest others alike rest_follow ih =>
      obtain ⟨own, old⟩ := entry
      obtain ⟨own', old'⟩ := other
      obtain ⟨rfl, old_follows⟩ := alike
      rw [NameTable.setEntry, NameTable.setEntry]
      split
      · exact .cons ⟨rfl, follows⟩ rest_follow
      · exact .cons ⟨rfl, old_follows⟩ ih

/-- A search by what the accounts share finds accounts of the same name. -/
theorem find?_follows (follow : Account.EntriesFollow kinds entries wider)
    (condition : Account → Bool)
    (condition_same : ∀ {account other : Account}, account.Follows kinds other →
      condition other = condition account) :
    ((wider.map (·.2)).find? condition).map (·.name) =
      ((entries.map (·.2)).find? condition).map (·.name) := by
  induction follow with
  | nil => rfl
  | @cons entry other rest others alike _ ih =>
      rw [List.map_cons, List.map_cons, List.find?_cons, List.find?_cons,
        condition_same alike.2]
      split
      · exact congrArg some alike.2.name
      · exact ih

end Entries

section Blank

variable {kinds wider : List Json}

theorem Account.ofRobot_follows (kinds_kept : ∀ kind ∈ kinds, kind ∈ wider) {robot : Robot}
    {account : Account} (opened : Account.ofRobot kinds robot = .ok account) :
    (∃ other, Account.ofRobot wider robot = .ok other ∧ account.Follows kinds other) ∨
      Json.RefusedAmong wider (Account.ofRobot wider robot) := by
  rcases Inventory.extend_ok_or_refused [] wider with ⟨extended, wider_extended⟩ | refused
  · cases narrow_extended : Inventory.extend [] kinds with
    | error error =>
        rw [ofRobot, Inventory.ofKinds, narrow_extended] at opened
        cases opened
    | ok inventory =>
        rw [ofRobot, Inventory.ofKinds, narrow_extended] at opened
        cases opened
        refine .inl ⟨{ name := robot.name, areas := [], inventory := extended, origin := none }, ?_,
          rfl, rfl, rfl, fun kind known => ?_⟩
        · rw [ofRobot, Inventory.ofKinds, wider_extended]
          rfl
        · have in_wider := Inventory.settled?_extend (List.forall_mem_nil _) wider_extended
            (.inl (kinds_kept kind known))
          have in_narrow := Inventory.settled?_extend (List.forall_mem_nil _) narrow_extended
            (.inl known)
          exact in_wider.trans in_narrow.symm
  · obtain ⟨kind, known, no_key, stopped⟩ := refused
    exact .inr ⟨kind, known, no_key, by rw [ofRobot, Inventory.ofKinds, stopped]; rfl⟩

theorem mapM_ofRobot_follows (kinds_kept : ∀ kind ∈ kinds, kind ∈ wider) {robots : List Robot}
    {accounts : List Account} (opened : robots.mapM (Account.ofRobot kinds) = .ok accounts) :
    (∃ others, robots.mapM (Account.ofRobot wider) = .ok others ∧
        List.Forall₂ (Account.Follows kinds) accounts others) ∨
      Json.RefusedAmong wider (robots.mapM (Account.ofRobot wider)) := by
  induction robots generalizing accounts with
  | nil =>
      cases opened
      exact .inl ⟨[], rfl, .nil⟩
  | cons robot rest ih =>
      rw [List.mapM_cons] at opened ⊢
      obtain ⟨first, first_opened, opened⟩ := bind_eq_ok opened
      obtain ⟨later, rest_opened, same⟩ := bind_eq_ok opened
      cases same
      rcases Account.ofRobot_follows kinds_kept first_opened with
        ⟨other, other_opened, follows⟩ | ⟨kind, known, no_key, stopped⟩
      · rw [other_opened]
        rcases ih rest_opened with
          ⟨others, others_opened, all_follow⟩ | ⟨kind, known, no_key, stopped⟩
        · exact .inl ⟨other :: others, by rw [others_opened]; rfl, .cons follows all_follow⟩
        · exact .inr ⟨kind, known, no_key, by rw [stopped]; rfl⟩
      · exact .inr ⟨kind, known, no_key, by rw [stopped]; rfl⟩

theorem declare_follows {table other : NameTable Account}
    (follow : Account.EntriesFollow kinds table.entries other.entries) {account account' : Account}
    (follows : account.Follows kinds account') :
    Account.EntriesFollow kinds (table.declare account.name account).entries
      (other.declare account'.name account').entries := by
  rw [follows.name, NameTable.declare, NameTable.declare, NameTable.find?, NameTable.find?]
  cases found : table.entries.lookup account.name with
  | none =>
      rw [lookup_missing follow found]
      exact List.rel_append follow (.cons ⟨rfl, follows⟩ .nil)
  | some there =>
      obtain ⟨other_there, other_found, -⟩ := lookup_follows follow found
      rw [other_found]
      exact follow

theorem ofFirst_follows {accounts others : List Account}
    (all_follow : List.Forall₂ (Account.Follows kinds) accounts others) :
    Account.EntriesFollow kinds
      (NameTable.ofFirst (accounts.map fun account => (account.name, account))).entries
      (NameTable.ofFirst (others.map fun account => (account.name, account))).entries := by
  suffices ∀ table other : NameTable Account,
      Account.EntriesFollow kinds table.entries other.entries →
      Account.EntriesFollow kinds
        ((accounts.map fun account => (account.name, account)).foldl
          (fun table entry => table.declare entry.1 entry.2) table).entries
        ((others.map fun account => (account.name, account)).foldl
          (fun table entry => table.declare entry.1 entry.2) other).entries by
    exact this .empty .empty .nil
  induction all_follow with
  | nil => exact fun _ _ follow => follow
  | cons follows _ ih => exact fun _ _ follow => ih _ _ (declare_follows follow follows)

theorem blank_follows (kinds_kept : ∀ kind ∈ kinds, kind ∈ wider) {robots : List Robot}
    {areas : List Area} {ledger : Ledger} (opened : Ledger.blank robots areas kinds = .ok ledger) :
    (∃ other, Ledger.blank robots areas wider = .ok other ∧ ledger.Follows kinds other) ∨
      Json.RefusedAmong wider (Ledger.blank robots areas wider) := by
  rw [Ledger.blank] at opened ⊢
  obtain ⟨accounts, accounts_opened, same⟩ := bind_eq_ok opened
  cases same
  rcases mapM_ofRobot_follows kinds_kept accounts_opened with
    ⟨others, others_opened, all_follow⟩ | ⟨kind, known, no_key, stopped⟩
  · rw [others_opened]
    exact .inl ⟨_, rfl, rfl, ofFirst_follows all_follow⟩
  · exact .inr ⟨kind, known, no_key, by rw [stopped]; rfl⟩

end Blank

/-! ## Passes -/

namespace Ledger

variable {kinds wider : List Json} {ledger other next : Ledger} {position : Nat}

/-- Books follow each other with an account of one name set in both. -/
theorem Follows.set (follows : ledger.Follows kinds other) (name : Text)
    {account account' : Account} (alike : account.Follows kinds account')
    (usages : NameTable AreaUsage) :
    Follows kinds { usages, accounts := ledger.accounts.set name account }
      { usages, accounts := other.accounts.set name account' } :=
  ⟨rfl, setEntry_follows follows.accounts name alike⟩

theorem grant_follows (record : Grant) (follows : ledger.Follows kinds other)
    (granted : ledger.grant position record = .ok next) :
    ∃ later, other.grant position record = .ok later ∧ next.Follows kinds later := by
  obtain ⟨usage, account, used, found, room, new, rfl⟩ := grant_eq_ok_iff.mp granted
  obtain ⟨account', found', alike⟩ := lookup_follows follows.accounts found
  rw [← alike.areas] at new
  rw [← follows.usages] at used ⊢
  have holding : Account.Follows kinds
      { account with areas := account.areas ++ [record.area] }
      { account' with areas := account'.areas ++ [record.area] } :=
    ⟨alike.name, congrArg (· ++ [record.area]) alike.areas, alike.origin, alike.settled⟩
  exact ⟨_, grant_eq_ok_iff.mpr ⟨usage, account', used, found', room, new, rfl⟩,
    follows.set record.robot holding _⟩

theorem supplyKind_follows (kinds_kept : ∀ kind ∈ kinds, kind ∈ wider) {quantity : Int}
    {account other next : Account} (kind : Text) (follows : account.Follows kinds other)
    (supplied : supplyKind kinds position quantity account kind = .ok next) :
    ∃ later, supplyKind wider position quantity other kind = .ok later ∧
      next.Follows kinds later := by
  obtain ⟨known, ⟨own, unsettled⟩, rfl⟩ := supplyKind_eq_ok_iff.mp supplied
  obtain ⟨⟨own', _⟩, unsettled', rfl⟩ : ∃ entry, other.inventory.find? (.string kind) = some entry ∧
      entry.2 = none := by
    have settled_same := follows.settled _ known
    rw [Inventory.settled?, Inventory.settled?, unsettled] at settled_same
    exact Option.map_eq_some_iff.mp settled_same
  refine ⟨_, supplyKind_eq_ok_iff.mpr ⟨kinds_kept _ known, ⟨own', unsettled'⟩, rfl⟩,
    follows.name, follows.areas, follows.origin, fun kind' known' => ?_⟩
  rw [Inventory.settled?_enter, Inventory.settled?_enter, follows.settled kind' known']

theorem supply_follows (kinds_kept : ∀ kind ∈ kinds, kind ∈ wider)
    (record : Supply) (follows : ledger.Follows kinds other)
    (supplied : ledger.supply kinds position record = .ok next) :
    ∃ later, other.supply wider position record = .ok later ∧ next.Follows kinds later := by
  rw [supply] at supplied ⊢
  cases found : ledger.accounts.find? record.robot with
  | none =>
      rw [found] at supplied
      cases supplied
  | some account =>
      obtain ⟨account', found', alike⟩ := lookup_follows follows.accounts found
      rw [found] at supplied
      rw [NameTable.find?, found']
      dsimp only at supplied ⊢
      cases entered : record.kinds.foldlM (supplyKind kinds position record.quantity) account with
      | error stop =>
          rw [entered] at supplied
          cases supplied
      | ok last =>
          rw [entered] at supplied
          cases supplied
          obtain ⟨last', entered', last_alike⟩ := foldlM_follows (Account.Follows kinds) alike
            entered (supplyKind_follows kinds_kept)
          rw [entered']
          exact ⟨_, rfl, follows.usages ▸ follows.set record.robot last_alike _⟩

theorem covers_same (follows : ledger.Follows kinds other) (point : Point) (areas : List Text) :
    other.covers point areas = ledger.covers point areas := by
  induction areas with
  | nil => rfl
  | cons area rest ih =>
      rw [covers, covers, follows.usages]
      split <;> simp only [ih]

theorem starter?_missing (follows : ledger.Follows kinds other) {point : Point}
    (missing : ledger.starter? point = none) : other.starter? point = none := by
  have search_same := find?_follows follows.accounts (fun account => account.origin = some point)
    fun alike => by rw [alike.origin]
  rw [starter?, NameTable.values] at missing
  rw [missing, Option.map_none, Option.map_eq_none_iff] at search_same
  exact search_same

theorem place_follows (record : Origin) (follows : ledger.Follows kinds other)
    (placed : ledger.place position record = .ok next) :
    ∃ later, other.place position record = .ok later ∧ next.Follows kinds later := by
  obtain ⟨account, found, unplaced, covered, free, rfl⟩ := place_eq_ok_iff.mp placed
  obtain ⟨account', found', alike⟩ := lookup_follows follows.accounts found
  rw [← alike.origin] at unplaced
  rw [← covers_same follows, ← alike.areas] at covered
  have starting : Account.Follows kinds { account with origin := some record.point }
      { account' with origin := some record.point } :=
    ⟨alike.name, alike.areas, rfl, alike.settled⟩
  exact ⟨_, place_eq_ok_iff.mpr
      ⟨account', found', unplaced, covered, starter?_missing follows free, rfl⟩,
    follows.usages ▸ follows.set record.robot starting _⟩

theorem idle?_same (follows : ledger.Follows kinds other) : other.idle? = ledger.idle? := by
  have search_same := find?_follows follows.accounts
    (fun account => account.areas.isEmpty) fun alike => by rw [alike.areas]
  have without_same := congrArg (Option.map SetupFault.noArea) search_same
  rw [Option.map_map, Option.map_map] at without_same
  rw [idle?, idle?, unused?, unused?, follows.usages]
  exact congrArg _ without_same

theorem unplaced?_same (follows : ledger.Follows kinds other) :
    other.unplaced? = ledger.unplaced? := by
  have search_same := find?_follows follows.accounts
    (fun account => account.origin.isNone) fun alike => by rw [alike.origin]
  have unplaced_same := congrArg (Option.map SetupFault.noOrigin) search_same
  rw [Option.map_map, Option.map_map] at unplaced_same
  exact unplaced_same

/-- A pass is followed by another one, if what it does with each record is. -/
theorem eachRecord_follows {α : Type} {action action' : Ledger → Nat → α → Except SetupStop Ledger}
    {records : List α} {last : Ledger} (follows : ledger.Follows kinds other)
    (ended : eachRecord action ledger position records = .ok last)
    (action_follows : ∀ {ledger other position next} record, Follows kinds ledger other →
      action ledger position record = .ok next →
      ∃ later, action' other position record = .ok later ∧ next.Follows kinds later) :
    ∃ final, eachRecord action' other position records = .ok final ∧ last.Follows kinds final := by
  rw [eachRecord_eq_foldlM] at ended ⊢
  exact foldlM_follows (Follows kinds) follows ended fun entry => action_follows entry.1

end Ledger

theorem stopAt_eq_ok {found : Option SetupFault} (passed : stopAt found = .ok ()) :
    found = none := by
  cases found with
  | none => rfl
  | some fault => cases passed

namespace Setup

variable {kinds wider : List Json} {setup : Setup} {robots : List Robot} {areas : List Area}
  {last : Ledger}

/-- A setup is carried out exactly if all of its passes come to an end. -/
theorem carryOut_eq_ok_iff :
    setup.carryOut robots areas kinds = .ok last ↔
      ∃ blank granted supplied, Ledger.blank robots areas kinds = .ok blank ∧
        blank.grantAll setup.grants = .ok granted ∧ granted.idle? = none ∧
        granted.supplyAll kinds setup.supplies = .ok supplied ∧
        supplied.placeAll setup.origins = .ok last ∧ last.unplaced? = none := by
  constructor
  · intro ended
    obtain ⟨blank, opened, ended⟩ := bind_eq_ok ended
    obtain ⟨granted, granting, ended⟩ := bind_eq_ok ended
    obtain ⟨⟨⟩, busy, ended⟩ := bind_eq_ok ended
    obtain ⟨supplied, supplying, ended⟩ := bind_eq_ok ended
    obtain ⟨placed, placing, ended⟩ := bind_eq_ok ended
    obtain ⟨⟨⟩, all_placed, same⟩ := bind_eq_ok ended
    cases same
    refine ⟨blank, granted, supplied, ?_, granting, stopAt_eq_ok busy, supplying, placing,
      stopAt_eq_ok all_placed⟩
    cases opening : Ledger.blank robots areas kinds with
    | error error =>
        rw [opening] at opened
        cases opened
    | ok ledger =>
        rw [opening] at opened
        cases opened
        rfl
  · rintro ⟨blank, granted, supplied, opened, granting, busy, supplying, placing, all_placed⟩
    have passed : stopAt none = .ok () := rfl
    simp only [carryOut, opened, mapError_ok, granting, busy, passed, supplying, placing,
      all_placed, bind, Except.bind, pure, Except.pure]

/-- Carrying a setup out goes as well where more kinds of items are known, unless the books refuse one
of those. -/
theorem carryOut_follows (kinds_kept : ∀ kind ∈ kinds, kind ∈ wider)
    (ended : setup.carryOut robots areas kinds = .ok last) :
    (∃ final, setup.carryOut robots areas wider = .ok final) ∨ ∃ kind ∈ wider, ¬kind.isKey ∧
      setup.carryOut robots areas wider = .error (.refused (.unusableKind kind.kind)) := by
  obtain ⟨blank, granted, supplied, opened, granting, busy, supplying, placing, all_placed⟩ :=
    carryOut_eq_ok_iff.mp ended
  rcases blank_follows kinds_kept opened with ⟨blank', opened', follows⟩ | refused
  · obtain ⟨granted', granting', follows_granted⟩ :=
      Ledger.eachRecord_follows follows granting Ledger.grant_follows
    obtain ⟨supplied', supplying', follows_supplied⟩ :=
      Ledger.eachRecord_follows follows_granted supplying (Ledger.supply_follows kinds_kept)
    obtain ⟨placed', placing', follows_placed⟩ :=
      Ledger.eachRecord_follows follows_supplied placing Ledger.place_follows
    rw [← Ledger.idle?_same follows_granted] at busy
    rw [← Ledger.unplaced?_same follows_placed] at all_placed
    exact .inl ⟨placed', carryOut_eq_ok_iff.mpr
      ⟨blank', granted', supplied', opened', granting', busy, supplying', placing', all_placed⟩⟩
  · obtain ⟨kind, known, no_key, stopped⟩ := refused
    exact .inr ⟨kind, known, no_key, by rw [carryOut, stopped]; rfl⟩

theorem fault?_eq_ok_none_iff {kinds : List Json} :
    setup.fault? robots areas kinds = .ok none ↔
      ∃ last, setup.carryOut robots areas kinds = .ok last := by
  rw [fault?]
  rcases setup.carryOut robots areas kinds with (fault | error) | last <;> simp

/-- A setup that is accepted is also accepted where more kinds of items are known, unless the books
refuse one of those. -/
theorem faultless_of_more_kinds (kinds_kept : ∀ kind ∈ kinds, kind ∈ wider)
    (faultless : setup.fault? robots areas kinds = .ok none) :
    setup.fault? robots areas wider = .ok none ∨
      Json.RefusedAmong wider (setup.fault? robots areas wider) := by
  obtain ⟨last, ended⟩ := fault?_eq_ok_none_iff.mp faultless
  rcases carryOut_follows kinds_kept ended with ended' | ⟨kind, known, no_key, stopped⟩
  · exact .inl (fault?_eq_ok_none_iff.mpr ended')
  · exact .inr ⟨kind, known, no_key, by rw [fault?, stopped]⟩

end Setup
end RobotCity
