import Mathlib.Algebra.GroupWithZero.Nat
import RobotCity.Proofs.NameTable
import RobotCity.Proofs.Setup.Conditions
import RobotCity.Proofs.Setup.Runs

/-!
# Balanced books

The usages of areas and the accounts of robots are entered one after the other, but say the same: the
usage of an area counts the accounts in which the area is listed.  Each area that is given out keeps the
two in balance, so that they are balanced in front of every record, and behind the last one.
-/

namespace RobotCity

/-- A usage without the robots that hold the area. -/
def AreaUsage.cleared (usage : AreaUsage) : AreaUsage :=
  { usage with current := 0 }

/-- An account without the areas that the robot holds. -/
def Account.cleared (account : Account) : Account :=
  { account with areas := [] }

namespace Ledger

/-- The books with all areas taken back.  They still show the limit of every area, and the name, the
inventory and the origin of every robot. -/
def cleared (ledger : Ledger) : Ledger :=
  { usages := ⟨ledger.usages.entries.map fun entry => (entry.1, entry.2.cleared)⟩
    accounts := ⟨ledger.accounts.entries.map fun entry => (entry.1, entry.2.cleared)⟩ }

/-- How many robots hold an area by their accounts. -/
def holders (ledger : Ledger) (area : Text) : Nat :=
  ledger.accounts.values.countP fun account => area ∈ account.areas

/-- Books in balance after some areas have been given out in the books that were opened. -/
structure Balanced (areas : List Area) (ledger opened : Ledger) (granted : Nat) : Prop where
  /-- The areas that are declared have usages, and no others do. -/
  declared : ∀ area, (ledger.usages.find? area).isSome ↔ area ∈ areas.map (·.name)
  /-- The usage of an area counts the robots that hold it by their accounts. -/
  counted : ∀ area usage, ledger.usages.find? area = some usage →
    usage.current = ledger.holders area
  limited : ∀ area usage, ledger.usages.find? area = some usage →
    0 ≤ usage.current ∧ usage.current ≤ usage.maximum
  areas_nodup : ∀ account ∈ ledger.accounts.values, account.areas.Nodup
  areas_declared : ∀ account ∈ ledger.accounts.values, ∀ area ∈ account.areas,
    area ∈ areas.map (·.name)
  total : (ledger.usages.values.map (·.current)).sum = granted
  /-- Apart from the areas that robots hold, the books are as they were opened. -/
  kept : ledger.cleared = opened

variable {robots : List Robot} {areas : List Area} {kinds : List Json} {opened : Ledger}

theorem usage_of_blank (blank : Ledger.blank robots areas kinds = .ok opened)
    {entry : Text × AreaUsage} (member : entry ∈ opened.usages.entries) :
    ∃ area ∈ areas, entry = (area.name, .ofArea robots.length area) := by
  obtain ⟨accounts, -, same⟩ := bind_eq_ok blank
  cases same
  obtain ⟨area, area_member, rfl⟩ := List.mem_map.mp (NameTable.mem_of_mem_ofLast member)
  exact ⟨area, area_member, rfl⟩

theorem areas_of_blank (blank : Ledger.blank robots areas kinds = .ok opened)
    {entry : Text × Account} (member : entry ∈ opened.accounts.entries) : entry.2.areas = [] := by
  obtain ⟨accounts, accounts_opened, same⟩ := bind_eq_ok blank
  cases same
  obtain ⟨account, account_member, rfl⟩ := List.mem_map.mp (NameTable.mem_of_mem_ofFirst member)
  obtain ⟨robot, -, account_opened⟩ := exists_of_mem_mapM accounts_opened account_member
  obtain ⟨inventory, -, same⟩ := bind_eq_ok account_opened
  cases same
  rfl

theorem find?_usage_of_blank (blank : Ledger.blank robots areas kinds = .ok opened) (area : Text) :
    (opened.usages.find? area).isSome ↔ area ∈ areas.map (·.name) := by
  obtain ⟨accounts, -, same⟩ := bind_eq_ok blank
  cases same
  rw [NameTable.isSome_find?_ofLast, List.map_map]
  rfl

theorem holders_of_blank (blank : Ledger.blank robots areas kinds = .ok opened) (area : Text) :
    opened.holders area = 0 := by
  rw [holders, List.countP_eq_zero]
  intro account member
  obtain ⟨entry, entry_member, rfl⟩ := List.mem_map.mp member
  simp [areas_of_blank blank entry_member]

theorem cleared_of_blank (blank : Ledger.blank robots areas kinds = .ok opened) :
    opened.cleared = opened := by
  have usages_kept : opened.usages.entries.map (fun entry => (entry.1, entry.2.cleared)) =
      opened.usages.entries := by
    refine (List.map_congr_left fun entry member => ?_).trans (List.map_id _)
    obtain ⟨area, -, rfl⟩ := usage_of_blank blank member
    rfl
  have accounts_kept : opened.accounts.entries.map (fun entry => (entry.1, entry.2.cleared)) =
      opened.accounts.entries := by
    refine (List.map_congr_left fun entry member => ?_).trans (List.map_id _)
    rw [Account.cleared, ← areas_of_blank blank member]
    rfl
  rw [cleared, usages_kept, accounts_kept]

/-- Nothing has been given out in books that have just been opened. -/
theorem blank_balanced (blank : Ledger.blank robots areas kinds = .ok opened) :
    opened.Balanced areas opened 0 where
  declared := find?_usage_of_blank blank
  counted area usage found := by
    obtain ⟨declared, -, same⟩ := usage_of_blank blank (NameTable.mem_entries_of_find? found)
    obtain ⟨rfl, rfl⟩ := Prod.mk.inj same
    rw [holders_of_blank blank]
    rfl
  limited area usage found := by
    obtain ⟨declared, -, same⟩ := usage_of_blank blank (NameTable.mem_entries_of_find? found)
    obtain ⟨rfl, rfl⟩ := Prod.mk.inj same
    exact ⟨Nat.le_refl 0, declared.occupancy.capacity_nonneg robots.length⟩
  areas_nodup account member := by
    obtain ⟨entry, entry_member, rfl⟩ := List.mem_map.mp member
    rw [areas_of_blank blank entry_member]
    exact List.nodup_nil
  areas_declared account member area held := by
    obtain ⟨entry, entry_member, rfl⟩ := List.mem_map.mp member
    rw [areas_of_blank blank entry_member] at held
    cases held
  total := by
    rw [NameTable.values, List.map_map, List.sum_eq_zero_iff_forall_eq_nat]
    intro current member
    obtain ⟨entry, entry_member, rfl⟩ := List.mem_map.mp member
    obtain ⟨area, -, rfl⟩ := usage_of_blank blank entry_member
    rfl
  kept := cleared_of_blank blank

variable {ledger next : Ledger} {position granted : Nat} {record : Grant}

/-- One robot more holds the area that is given out, and no other area. -/
theorem holders_set {robot area : Text} {account : Account}
    (found : ledger.accounts.find? robot = some account) (new : area ∉ account.areas)
    (usages : NameTable AreaUsage) (other : Text) :
    let changed : Account := { account with areas := account.areas ++ [area] }
    holders { usages, accounts := ledger.accounts.set robot changed } other =
      ledger.holders other + if other = area then 1 else 0 := by
  intro changed
  obtain ⟨front, back, entries, changes⟩ := NameTable.exists_split_of_find? found
  have listed : other ∈ changed.areas ↔ other ∈ account.areas ∨ other = area := by
    simp [changed]
  simp only [holders, NameTable.values, changes, entries, List.map_append, List.map_cons,
    List.countP_append, List.countP_cons, listed]
  by_cases same : other = area
  · subst same
    simp [new]
    omega
  · simp [same]

/-- What holds of the accounts that are in the books, and of a new one, holds after this is set. -/
theorem forall_account_set {robot : Text} {account changed : Account} {Holds : Account → Prop}
    (found : ledger.accounts.find? robot = some account)
    (all_hold : ∀ other ∈ ledger.accounts.values, Holds other) (changed_holds : Holds changed) :
    ∀ other ∈ (ledger.accounts.set robot changed).values, Holds other := by
  obtain ⟨front, back, entries, changes⟩ := NameTable.exists_split_of_find? found
  rw [NameTable.values, entries] at all_hold
  rw [NameTable.values, changes]
  simp only [List.map_append, List.map_cons, List.forall_mem_append, List.forall_mem_cons]
    at all_hold ⊢
  exact ⟨all_hold.1, changed_holds, all_hold.2.2⟩

/-- Giving out one more area keeps the books in balance. -/
theorem grant_balanced (balanced : ledger.Balanced areas opened granted)
    (ended : ledger.grant position record = .ok next) :
    next.Balanced areas opened (granted + 1) := by
  obtain ⟨usage, account, used, found, room, new, rfl⟩ := grant_eq_ok_iff.mp ended
  have account_member : account ∈ ledger.accounts.values :=
    List.mem_map_of_mem (NameTable.mem_entries_of_find? found)
  have area_declared : record.area ∈ areas.map (·.name) :=
    (balanced.declared record.area).mp (by rw [used]; rfl)
  obtain ⟨front, back, usages_split, usages_set⟩ := NameTable.exists_split_of_find? used
  obtain ⟨first, last, accounts_split, accounts_set⟩ := NameTable.exists_split_of_find? found
  constructor
  case declared =>
    intro area
    rw [← balanced.declared, NameTable.find?_set]
    split
    · rename_i same
      rw [same, used]
      rfl
    · rfl
  case counted =>
    intro area changed looked_up
    rw [holders_set found new]
    rw [NameTable.find?_set] at looked_up
    split at looked_up
    · rename_i same
      cases looked_up
      rw [if_pos same, same, ← balanced.counted record.area usage used]
    · rename_i differs
      rw [if_neg differs]
      exact balanced.counted area changed looked_up
  case limited =>
    intro area changed looked_up
    rw [NameTable.find?_set] at looked_up
    split at looked_up
    · cases looked_up
      exact ⟨Nat.zero_le _, room⟩
    · exact balanced.limited area changed looked_up
  case areas_nodup =>
    apply forall_account_set found balanced.areas_nodup
    apply (balanced.areas_nodup account account_member).append (List.nodup_singleton _)
    simpa using new
  case areas_declared =>
    apply forall_account_set found balanced.areas_declared
    intro area held
    rcases List.mem_append.mp held with before | now
    · exact balanced.areas_declared account account_member area before
    · exact List.mem_singleton.mp now ▸ area_declared
  case total =>
    rw [← balanced.total]
    simp only [NameTable.values, usages_set, usages_split, List.map_append, List.map_cons,
      List.sum_append, List.sum_cons]
    omega
  case kept =>
    rw [← balanced.kept]
    simp only [cleared, usages_set, usages_split, accounts_set, accounts_split, List.map_append,
      List.map_cons]
    rfl

theorem eachRecord_balanced {grants : List Grant} (balanced : ledger.Balanced areas opened granted)
    (ended : eachRecord grant ledger position grants = .ok next) :
    next.Balanced areas opened (granted + grants.length) := by
  induction grants generalizing ledger position granted with
  | nil =>
      cases ended
      exact balanced
  | cons record rest ih =>
      rw [eachRecord] at ended
      obtain ⟨later, taken, ended⟩ := bind_eq_ok ended
      rw [List.length_cons, Nat.add_comm rest.length, ← Nat.add_assoc]
      exact ih (grant_balanced balanced taken) ended

/-- The books are in balance in front of every record that gives out an area, and behind the last one:
whatever areas have been given out from the books as they were opened, the usage of each area counts the
accounts in which it is listed. -/
theorem books_balance (blank : Ledger.blank robots areas kinds = .ok opened) (grants : List Grant)
    (ended : opened.grantAll grants = .ok ledger) :
    ledger.Balanced areas opened grants.length := by
  have balanced := eachRecord_balanced (blank_balanced blank) ended
  rwa [Nat.zero_add] at balanced

/-- Three robots, the first and the last of one name. -/
def namesakes : List Robot :=
  [⟨"r1", "carrier"⟩, ⟨"r2", "carrier"⟩, ⟨"r1", "carrier"⟩]

/-- Three areas, the first and the last of one name. -/
def patches : List Area :=
  [ ⟨"north", .exclusive, ⟨⟨1, 1⟩, ⟨9, 9⟩⟩⟩, ⟨"south", .shared, ⟨⟨1, 10⟩, ⟨9, 19⟩⟩⟩
  , ⟨"north", .semiPrivate, ⟨⟨1, 1⟩, ⟨5, 9⟩⟩⟩ ]

/-- The area with two holders is the last one of its name, and has no room left. -/
theorem namesakes_balance :
    ∃ opened ledger, Ledger.blank namesakes patches [.string "flower"] = .ok opened ∧
      opened.grantAll [⟨"r1", "north"⟩, ⟨"r2", "south"⟩, ⟨"r2", "north"⟩] = .ok ledger ∧
      ledger.holders "north" = 2 ∧ ledger.Balanced patches opened 3 := by
  obtain ⟨opened, ledger, blank, ended, held⟩ : ∃ opened ledger,
      Ledger.blank namesakes patches [.string "flower"] = .ok opened ∧
      opened.grantAll [⟨"r1", "north"⟩, ⟨"r2", "south"⟩, ⟨"r2", "north"⟩] = .ok ledger ∧
      ledger.holders "north" = 2 := ⟨_, _, rfl, rfl, rfl⟩
  exact ⟨opened, ledger, blank, ended, held, books_balance blank _ ended⟩

end Ledger
end RobotCity
