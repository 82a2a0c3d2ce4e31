import RobotCity.Proofs.Setup.Acceptance
import RobotCity.Proofs.Setup.Kinds

/-!
# Occupancy policies

A policy is kept in every setup that is accepted: a private area has one holder, a semi-private one
leaves somebody out, and no area is without a holder.  A shared area is full only when every robot holds
it, so that nobody but a robot that holds it already is ever refused.
-/

namespace RobotCity

/-- The robots that are given an area. -/
def Setup.holders (setup : Setup) (robots : List Robot) (area : Area) : List Robot :=
  robots.filter fun robot => { robot := robot.name, area := area.name } ∈ setup.grants

/-- What a policy promises of the robots that hold an area. -/
def Occupancy.Respected (robots holders : List Robot) : Occupancy → Prop
  | .shared => holders ≠ []
  | .semiPrivate => holders ≠ [] ∧ (2 ≤ robots.length → ∃ robot ∈ robots, robot ∉ holders)
  | .exclusive => ∃ robot, holders = [robot]

section Holders

variable {robots : List Robot} {areas : List Area} {setup : Setup} {area : Area}

/-- As long as areas are given out in order, an area is given out as often as there are robots that hold
it. -/
theorem length_holders (robots_nodup : (robots.map (·.name)).Nodup)
    (allowed : (Roster.ofDeclared robots areas []).GrantsAllowed setup.grants) (area : Area) :
    (setup.holders robots area).length = holderCount setup.grants area.name := by
  -- Both sides count the same names, each of which stands once.
  let given := setup.grants.filter (·.area = area.name)
  have holders_nodup : ((setup.holders robots area).map (·.name)).Nodup :=
    robots_nodup.sublist (List.filter_sublist.map _)
  have given_nodup : (given.map (·.robot)).Nodup := by
    refine List.Nodup.map_on ?_ (allowed.grants_nodup.filter _)
    rintro ⟨robot, _⟩ first_given ⟨_, _⟩ second_given rfl
    simp only [given, List.mem_filter, decide_eq_true_eq] at first_given second_given
    rw [first_given.2, second_given.2]
  have same_names : ((setup.holders robots area).map (·.name)).Perm (given.map (·.robot)) := by
    refine (List.perm_ext_iff_of_nodup holders_nodup given_nodup).mpr fun name => ?_
    simp only [Setup.holders, given, List.mem_map, List.mem_filter, decide_eq_true_eq]
    constructor
    · rintro ⟨robot, ⟨-, held⟩, rfl⟩
      exact ⟨_, ⟨held, rfl⟩, rfl⟩
    · rintro ⟨⟨name, _⟩, ⟨member, rfl⟩, rfl⟩
      obtain ⟨robot, robot_member, rfl⟩ := List.mem_map.mp (allowed.robot_declared _ member)
      exact ⟨robot, ⟨robot_member, member⟩, rfl⟩
  have counted := same_names.length_eq
  rw [List.length_map, List.length_map] at counted
  rw [counted, holderCount, List.countP_eq_length_filter]

/-- Where areas are given out in order and every area is used, all policies are kept. -/
theorem respected_of_allowed (robots_nodup : (robots.map (·.name)).Nodup)
    (allowed : (Roster.ofDeclared robots areas []).GrantsAllowed setup.grants)
    (used : ∀ area ∈ areas, ∃ grant ∈ setup.grants, grant.area = area.name)
    (member : area ∈ areas) : area.occupancy.Respected robots (setup.holders robots area) := by
  have limited : (holderCount setup.grants area.name : Int) ≤
      area.occupancy.capacity robots.length := allowed.limited area member
  have positive := Roster.holderCount_pos_iff.mpr (used area member)
  rw [← length_holders robots_nodup allowed area] at limited positive
  have somebody := List.length_pos_iff.mp positive
  cases policy : area.occupancy with
  | shared => exact somebody
  | semiPrivate =>
      refine ⟨somebody, fun several => ?_⟩
      rw [policy, Occupancy.capacity] at limited
      by_contra all_hold
      push Not at all_hold
      have everybody : setup.holders robots area = robots :=
        List.filter_eq_self.mpr fun robot robot_member =>
          (List.mem_filter.mp (all_hold robot robot_member)).2
      rw [everybody] at limited
      omega
  | exclusive =>
      rw [policy, Occupancy.capacity] at limited
      exact List.length_eq_one_iff.mp (by omega)

/-- A shared area that is full is held by every robot. -/
theorem holds_of_full (setup : Setup) (robots_nodup : (robots.map (·.name)).Nodup)
    (allowed : (Roster.ofDeclared robots areas []).GrantsAllowed setup.grants)
    (full : robots.length ≤ holderCount setup.grants area.name) {robot : Robot}
    (member : robot ∈ robots) :
    { robot := robot.name, area := area.name } ∈ setup.grants := by
  rw [← length_holders robots_nodup allowed area] at full
  have everybody : setup.holders robots area = robots :=
    List.filter_sublist.eq_of_length_le full
  rw [← everybody] at member
  simpa using (List.mem_filter.mp member).2

end Holders

/-- Where no kinds are compared, books that follow each other do so both ways. -/
theorem Ledger.Follows.symm {ledger other : Ledger} (follows : ledger.Follows [] other) :
    other.Follows [] ledger := by
  refine ⟨follows.usages.symm, List.Forall₂.flip (follows.accounts.imp ?_)⟩
  rintro ⟨name, account⟩ ⟨name', account'⟩ ⟨same, alike⟩
  exact ⟨same.symm, alike.name.symm, alike.areas.symm, alike.origin.symm, by simp⟩

section Grants

variable {robots : List Robot} {areas : List Area} {kinds : List Json} {grants : List Grant}
  {blank ledger : Ledger}

/-- Areas that have been given out are given out in order, and the books are those of the records,
inventories apart. -/
theorem allowed_of_grantAll (distinct : (Roster.ofDeclared robots areas []).Distinct)
    (opened : Ledger.blank robots areas kinds = .ok blank)
    (granted : blank.grantAll grants = .ok ledger) :
    (Roster.ofDeclared robots areas []).GrantsAllowed grants ∧
      ledger.Follows []
        ((Roster.ofDeclared robots areas []).books { grants, supplies := [], origins := [] }) := by
  have plain_opened : Ledger.blank robots areas [] =
      .ok ((Roster.ofDeclared robots areas []).books .blank) := Roster.blank_eq_books distinct
  have follows : blank.Follows [] ((Roster.ofDeclared robots areas []).books .blank) := by
    rcases blank_follows (List.forall_mem_nil _) plain_opened with
      ⟨other, other_opened, follows⟩ | ⟨_, _, _, refused⟩
    · cases opened.symm.trans other_opened
      exact follows.symm
    · cases opened.symm.trans refused
  obtain ⟨final, ended, follows_final⟩ :=
    Ledger.eachRecord_follows follows granted Ledger.grant_follows
  have decided := Roster.grantAll_decides distinct grants
  rw [Ledger.grantAll, ended] at decided
  by_cases allowed : (Roster.ofDeclared robots areas []).GrantsAllowed grants
  · cases decided.goes_on allowed
    exact ⟨allowed, follows_final⟩
  · obtain ⟨fault, stopped, -⟩ := decided.stops allowed
    cases stopped

end Grants

section Labels

variable {σ τ α : Type} {label : String}

/-- If a check stops at a fault, then under this label. -/
def Labelled (label : String) (outcome : Except SetupStop σ) : Prop :=
  ∀ fault : SetupFault, outcome = .error (.fault fault) → fault.category = label

theorem labelled_ok (state : σ) : Labelled label (.ok state) := fun _ stopped => by cases stopped

theorem labelled_refused (error : BookError) :
    Labelled label (.error (.refused error) : Except SetupStop σ) := fun _ stopped => by cases stopped

theorem labelled_fault {fault : SetupFault} (same : fault.category = label) :
    Labelled label (.error (.fault fault) : Except SetupStop σ) := by
  rintro _ ⟨⟩
  exact same

theorem Labelled.bind {outcome : Except SetupStop σ} {rest : σ → Except SetupStop τ}
    (first : Labelled label outcome) (later : ∀ state, Labelled label (rest state)) :
    Labelled label (outcome >>= rest) := by
  intro fault stopped
  rcases bind_eq_error stopped with here | ⟨state, -, stops⟩
  · exact first fault here
  · exact later state fault stops

theorem labelled_foldlM {step : σ → α → Except SetupStop σ}
    (each : ∀ state item, Labelled label (step state item)) (items : List α) (state : σ) :
    Labelled label (items.foldlM step state) := by
  induction items generalizing state with
  | nil => exact labelled_ok state
  | cons item rest ih =>
      rw [List.foldlM_cons]
      exact (each state item).bind ih

theorem labelled_eachRecord {action : Ledger → Nat → α → Except SetupStop Ledger}
    (each : ∀ ledger position record, Labelled label (action ledger position record))
    (ledger : Ledger) (position : Nat) (records : List α) :
    Labelled label (eachRecord action ledger position records) := by
  rw [eachRecord_eq_foldlM]
  exact labelled_foldlM (fun ledger (entry : α × Nat) => each ledger entry.2 entry.1) _ ledger

end Labels

namespace Ledger

theorem supply_labelled (kinds : List Json) (ledger : Ledger) (position : Nat) (record : Supply) :
    Labelled SetupPass.items.category (ledger.supply kinds position record) := by
  have kind_labelled (account : Account) (kind : Text) : Labelled SetupPass.items.category
      (supplyKind kinds position record.quantity account kind) := by
    rw [supplyKind]
    split
    · exact labelled_fault rfl
    · split
      · exact labelled_refused _
      · exact labelled_fault rfl
      · exact labelled_ok _
  rw [supply]
  split
  · exact labelled_fault rfl
  · exact (labelled_foldlM kind_labelled record.kinds _).bind fun _ => labelled_ok _

theorem place_labelled (ledger : Ledger) (position : Nat) (record : Origin) :
    Labelled SetupPass.origins.category (ledger.place position record) := by
  rw [place]
  split
  · exact labelled_fault rfl
  · split
    · exact labelled_fault rfl
    · split
      · exact labelled_refused _
      · exact labelled_fault rfl
      · split
        · exact labelled_fault rfl
        · exact labelled_ok _

theorem idle?_labelled (ledger : Ledger) :
    Labelled SetupPass.participation.category (stopAt ledger.idle?) := by
  cases found : ledger.idle? with
  | none => exact labelled_ok ()
  | some fault =>
      refine labelled_fault ?_
      rcases Option.or_eq_some_iff.mp found with unused | ⟨-, without⟩
      · obtain ⟨entry, -, rfl⟩ := Option.map_eq_some_iff.mp unused
        rfl
      · obtain ⟨account, -, rfl⟩ := Option.map_eq_some_iff.mp without
        rfl

theorem unplaced?_labelled (ledger : Ledger) :
    Labelled SetupPass.origins.category (stopAt ledger.unplaced?) := by
  cases found : ledger.unplaced? with
  | none => exact labelled_ok ()
  | some fault =>
      obtain ⟨account, -, rfl⟩ := Option.map_eq_some_iff.mp found
      exact labelled_fault rfl

end Ledger

/-- A setup that is refused under the label of the first pass is refused by the first pass. -/
theorem Setup.grantAll_of_label {setup : Setup} {robots : List Robot} {areas : List Area}
    {kinds : List Json} {fault : SetupFault} (label : fault.category = SetupPass.areas.category)
    (stopped : setup.carryOut robots areas kinds = .error (.fault fault)) :
    ∃ blank, Ledger.blank robots areas kinds = .ok blank ∧
      blank.grantAll setup.grants = .error (.fault fault) := by
  cases opened : Ledger.blank robots areas kinds with
  | error error =>
      rw [carryOut, opened] at stopped
      cases stopped
  | ok blank =>
      rw [carryOut, opened, mapError_ok] at stopped
      refine ⟨blank, rfl, ?_⟩
      rcases bind_eq_error stopped with here | ⟨blank', same, stopped⟩
      · cases here
      cases same
      rcases bind_eq_error stopped with here | ⟨granted, -, stopped⟩
      · exact here
      -- No pass behind the first one uses its label.
      rcases bind_eq_error stopped with here | ⟨_, -, stopped⟩
      · exact absurd (label.symm.trans (granted.idle?_labelled fault here)) (by decide)
      rcases bind_eq_error stopped with here | ⟨supplied, -, stopped⟩
      · have labelled := labelled_eachRecord (Ledger.supply_labelled kinds) granted 1 setup.supplies
        exact absurd (label.symm.trans (labelled fault here)) (by decide)
      rcases bind_eq_error stopped with here | ⟨placed, -, stopped⟩
      · have labelled := labelled_eachRecord Ledger.place_labelled supplied 1 setup.origins
        exact absurd (label.symm.trans (labelled fault here)) (by decide)
      rcases bind_eq_error stopped with here | ⟨_, -, stopped⟩
      · exact absurd (label.symm.trans (placed.unplaced?_labelled fault here)) (by decide)
      cases stopped

/-- An area that is refused for being full is full, and asked for by a declared robot. -/
theorem Ledger.grant_eq_limitExceeded {ledger : Ledger} {position place : Nat} {record : Grant}
    {name : Text} {maximum : Int}
    (stopped : ledger.grant position record = .error (.fault (.limitExceeded name maximum place))) :
    place = position ∧ record.area = name ∧
      (∃ usage, ledger.usages.find? name = some usage ∧ usage.isFull) ∧
      ∃ account, ledger.accounts.find? record.robot = some account := by
  rw [grant] at stopped
  cases used : ledger.usages.find? record.area with
  | none =>
      rw [used] at stopped
      cases stopped
  | some usage =>
      rw [used] at stopped
      cases found : ledger.accounts.find? record.robot with
      | none =>
          rw [found] at stopped
          cases stopped
      | some account =>
          rw [found] at stopped
          dsimp only at stopped
          split at stopped
          · rename_i full
            cases stopped
            exact ⟨rfl, rfl, ⟨usage, used, full⟩, account, rfl⟩
          · split at stopped
            · cases stopped
            · split at stopped <;> cases stopped

namespace Setup

open Roster (ofDeclared)

variable {robots : List Robot} {areas : List Area} {kinds : List Json} {setup : Setup}

/-- In an accepted setup the policy of every area is kept. -/
theorem respected_of_accepted (distinct : (ofDeclared robots areas []).Distinct)
    (accepted : setup.fault? robots areas kinds = .ok none) {area : Area} (member : area ∈ areas) :
    area.occupancy.Respected robots (setup.holders robots area) := by
  obtain ⟨last, ended⟩ := fault?_eq_ok_none_iff.mp accepted
  obtain ⟨blank, granted, _, opened, granting, busy, -⟩ := carryOut_eq_ok_iff.mp ended
  obtain ⟨allowed, follows⟩ := allowed_of_grantAll distinct opened granting
  rw [← Ledger.idle?_same follows, Ledger.idle?, Option.or_eq_none_iff] at busy
  have used := (Roster.unused?_eq_none_iff _).mp busy.1
  exact respected_of_allowed distinct.robots_nodup allowed used member

/-- Only a repetition is refused because a shared area is full. -/
theorem repeated_of_limitExceeded (distinct : (ofDeclared robots areas []).Distinct) {area : Area}
    (member : area ∈ areas) (policy : area.occupancy = .shared) {maximum : Int} {position : Nat}
    (refused : setup.fault? robots areas kinds =
      .ok (some (.limitExceeded area.name maximum position))) :
    ∃ before record after, setup.grants = before ++ record :: after ∧
      position = before.length + 1 ∧ record.area = area.name ∧ record ∈ before := by
  have stopped : setup.carryOut robots areas kinds =
      .error (.fault (.limitExceeded area.name maximum position)) := by
    rw [fault?] at refused
    split at refused <;> cases refused
    assumption
  obtain ⟨blank, opened, granting⟩ := grantAll_of_label rfl stopped
  obtain ⟨before, record, after, ledger, split_grants, granted, stops⟩ :=
    eachRecord_eq_error granting
  obtain ⟨rfl, same_area, ⟨usage, used, full⟩, account, found⟩ :=
    Ledger.grant_eq_limitExceeded stops
  refine ⟨before, record, after, split_grants, Nat.add_comm _ _, same_area, ?_⟩
  obtain ⟨allowed, follows⟩ := allowed_of_grantAll distinct opened granted
  -- The books say how many robots hold the area, and whether the robot is declared.
  have declared : record.robot ∈ robots.map (·.name) := by
    by_contra absent
    have missing : ((ofDeclared robots areas []).books
        { grants := before, supplies := [], origins := [] }).accounts.find? record.robot = none :=
      Roster.books_account_of_notMem _ absent
    have nowhere := lookup_missing follows.symm.accounts missing
    cases found.symm.trans nowhere
  have crowded : robots.length ≤ holderCount before area.name := by
    have books_used := Roster.books_usage_of_mem distinct
      { grants := before, supplies := [], origins := [] } member
    rw [follows.usages, used] at books_used
    cases books_used
    have limit := Roster.usage_isFull_iff.mp full
    rw [policy, Occupancy.capacity] at limit
    exact_mod_cast limit
  obtain ⟨robot, robot_member, same_robot⟩ := List.mem_map.mp declared
  have holds := holds_of_full { setup with grants := before } distinct.robots_nodup allowed crowded
    robot_member
  rw [same_robot, ← same_area] at holds
  exact holds

/-- Policies are kept in every accepted setup, and no robot is refused a shared area for its being
full unless it has been given this area by an earlier record. -/
theorem policies_kept (areas_nodup : (areas.map (·.name)).Nodup)
    (robots_nodup : (robots.map (·.name)).Nodup) (setup : Setup) (kinds : List Json) :
    (setup.fault? robots areas kinds = .ok none →
      ∀ area ∈ areas, area.occupancy.Respected robots (setup.holders robots area)) ∧
    ∀ area ∈ areas, area.occupancy = .shared → ∀ maximum position,
      setup.fault? robots areas kinds = .ok (some (.limitExceeded area.name maximum position)) →
      ∃ before record after, setup.grants = before ++ record :: after ∧
        position = before.length + 1 ∧ record.area = area.name ∧ record ∈ before := by
  have distinct : (ofDeclared robots areas []).Distinct := ⟨areas_nodup, robots_nodup⟩
  exact ⟨fun accepted _ => respected_of_accepted distinct accepted,
    fun _ member policy _ _ => repeated_of_limitExceeded distinct member policy⟩

/-- Without its items, the setup that gives paper out twice is accepted; but no robot may ask for an
area again. -/
theorem paperTwice_policies :
    (halves.map (·.name)).Nodup ∧ (carriers.map (·.name)).Nodup ∧
      (∀ area ∈ halves, area.occupancy.Respected carriers (paperTwice.holders carriers area)) ∧
      ∃ before record after, paperTwice.grants ++ [⟨"r1", "north"⟩] = before ++ record :: after ∧
        4 = before.length + 1 ∧ record.area = ("north" : Text) ∧ record ∈ before := by
  let plain : Setup := { paperTwice with supplies := [] }
  let again : Setup := { paperTwice with grants := paperTwice.grants ++ [⟨"r1", "north"⟩] }
  have areas_nodup : (halves.map (·.name)).Nodup := by decide
  have robots_nodup : (carriers.map (·.name)).Nodup := by decide
  have accepted : plain.fault? carriers halves [.string "flower"] = .ok none := by decide
  have refused : again.fault? carriers halves [.string "flower"] =
      .ok (some (.limitExceeded "north" 2 4)) := by decide
  have kept := policies_kept areas_nodup robots_nodup
  exact ⟨areas_nodup, robots_nodup, (kept plain _).1 accepted,
    (kept again _).2 ⟨"north", .shared, ⟨⟨1, 1⟩, ⟨9, 9⟩⟩⟩ List.mem_cons_self rfl 2 4 refused⟩

end Setup
end RobotCity
