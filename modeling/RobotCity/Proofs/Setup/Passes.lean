import RobotCity.Proofs.Setup.Books

/-!
# The passes of a setup check

Each pass, run on the books of the records so far, decides the condition on its own records.  The
step lemmas say what one record does to the books; the pass lemmas follow by running the steps.
-/

namespace RobotCity
namespace Roster

variable {roster : Roster}

theorem usage_isFull_iff {grants : List Grant} {area : Area} :
    (roster.usage grants area).isFull = true ↔
      area.occupancy.capacity roster.headcount ≤ holderCount grants area.name :=
  decide_eq_true_iff

/-- The books after one more area is given out. -/
theorem books_grant (distinct : roster.Distinct) (setup : Setup) {area : Area} {robot : Text}
    (area_member : area ∈ roster.areas) (robot_member : robot ∈ roster.robots) :
    let grant : Grant := { robot, area := area.name }
    let account := roster.account setup robot
    let usage := roster.usage setup.grants area
    roster.books { setup with grants := setup.grants ++ [grant] } =
      { usages := (roster.books setup).usages.set area.name
          { usage with current := usage.current + 1 }
        accounts := (roster.books setup).accounts.set robot
          { account with areas := account.areas ++ [area.name] } } := by
  intro grant account usage
  let changed : Setup := { setup with grants := setup.grants ++ [grant] }
  have usage_changed : roster.usage changed.grants area =
      { usage with current := usage.current + 1 } := by
    simp [changed, grant, usage, Roster.usage]
  have account_changed : roster.account changed robot =
      { account with areas := account.areas ++ [area.name] } := by
    simp [changed, grant, account, Roster.account, areasOf_append_singleton]
  rw [← usage_changed, ← account_changed, set_usage distinct area_member setup changed,
    set_account distinct robot_member setup changed]
  · intro other differs
    simp [changed, grant, Roster.account, areasOf_append_singleton, Ne.symm differs]
  · intro name differs
    simp [changed, grant, Ne.symm differs]

/-- Giving out one more area. -/
theorem grant_decides (distinct : roster.Distinct) (setup : Setup) (position : Nat)
    (record : Grant) :
    Decides ((roster.books setup).grant position record)
      (roster.Grantable setup.grants record)
      (roster.books { setup with grants := setup.grants ++ [record] })
      SetupPass.areas.category := by
  obtain ⟨robot, area_name⟩ := record
  by_cases area_declared : area_name ∈ roster.areas.map (·.name)
  case neg =>
    have unknown := books_usage_of_notMem setup area_declared
    exact ⟨fun grantable => absurd grantable.area_declared area_declared,
      fun _ => ⟨.unknownArea area_name position, by simp [Ledger.grant, unknown], rfl⟩⟩
  obtain ⟨area, area_member, rfl⟩ := List.mem_map.mp area_declared
  have usage_found := books_usage_of_mem distinct setup area_member
  by_cases robot_declared : robot ∈ roster.robots
  case neg =>
    have unknown := books_account_of_notMem setup robot_declared
    exact ⟨fun grantable => absurd grantable.robot_declared robot_declared,
      fun _ => ⟨.unknownHolder robot position, by simp [Ledger.grant, usage_found, unknown], rfl⟩⟩
  have account_found := books_account_of_mem distinct setup robot_declared
  by_cases full : (roster.usage setup.grants area).isFull
  case pos =>
    refine ⟨fun grantable => ?_, fun _ => ⟨.limitExceeded area.name _ position,
      by simp [Ledger.grant, usage_found, account_found, full]; rfl, rfl⟩⟩
    have free := grantable.free area area_member rfl
    have := usage_isFull_iff.mp full
    omega
  by_cases held : { robot, area := area.name : Grant } ∈ setup.grants
  case pos =>
    exact ⟨fun grantable => absurd held grantable.grant_new,
      fun _ => ⟨.areaTwice area.name robot,
        by simp [Ledger.grant, usage_found, account_found, full, account, held], rfl⟩⟩
  refine ⟨fun _ => ?_, fun refused => absurd ⟨area_declared, robot_declared, held, ?_⟩ refused⟩
  · rw [books_grant distinct setup area_member robot_declared]
    simp [Ledger.grant, usage_found, account_found, full, account, held, AreaUsage.claim]
  · intro other other_member same
    have equal := List.inj_on_of_nodup_map distinct.areas_nodup other_member area_member same
    rw [usage_isFull_iff] at full
    rw [equal]
    omega

/-- Giving out areas. -/
theorem grantAll_decides (distinct : roster.Distinct) (grants : List Grant) :
    Decides ((roster.books .blank).grantAll grants) (roster.GrantsAllowed grants)
      (roster.books { grants, supplies := [], origins := [] }) SetupPass.areas.category := by
  let state (grants : List Grant) : Ledger := roster.books { grants, supplies := [], origins := [] }
  have pass : Pass (fun ledger (entry : Grant × Nat) => ledger.grant entry.2 entry.1) (·.1) state
      roster.GrantsAllowed roster.Grantable SetupPass.areas.category :=
    ⟨fun _ _ => grantsAllowed_append_singleton, fun done entry _ =>
      grant_decides distinct { grants := done, supplies := [], origins := [] } entry.2 entry.1⟩
  exact eachRecord_decides pass roster.grantsAllowed_nil 1 grants

theorem holderCount_pos_iff {grants : List Grant} {area : Text} :
    0 < holderCount grants area ↔ ∃ grant ∈ grants, grant.area = area := by
  simp [holderCount, List.countP_pos_iff]

theorem areasOf_ne_nil_iff {grants : List Grant} {robot : Text} :
    areasOf grants robot ≠ [] ↔ ∃ grant ∈ grants, grant.robot = robot := by
  simp [areasOf]

theorem unused?_eq_none_iff (setup : Setup) :
    (roster.books setup).unused? = none ↔
      ∀ area ∈ roster.areas, ∃ grant ∈ setup.grants, grant.area = area.name := by
  simp [Ledger.unused?, books, AreaUsage.isUsed, usage, holderCount_pos_iff]

theorem withoutArea?_eq_none_iff (setup : Setup) :
    (roster.books setup).withoutArea? = none ↔
      ∀ robot ∈ roster.robots, ∃ grant ∈ setup.grants, grant.robot = robot := by
  simp [Ledger.withoutArea?, books, account, ← areasOf_ne_nil_iff]

/-- Looking for areas and robots that take no part. -/
theorem idle?_decides (roster : Roster) (setup : Setup) :
    Decides (stopAt (roster.books setup).idle?) (roster.AllTakePart setup.grants) ()
      SetupPass.participation.category := by
  apply stopAt_decides
  · rw [Ledger.idle?, Option.or_eq_none_iff, unused?_eq_none_iff, withoutArea?_eq_none_iff]
    exact ⟨fun ⟨used, holds⟩ => ⟨used, holds⟩, fun ⟨used, holds⟩ => ⟨used, holds⟩⟩
  · intro fault found
    rcases Option.or_eq_some_iff.mp found with unused | ⟨-, without⟩
    · obtain ⟨entry, -, rfl⟩ := Option.map_eq_some_iff.mp unused
      rfl
    · obtain ⟨account, -, rfl⟩ := Option.map_eq_some_iff.mp without
      rfl

/-- A setup with one more record of items. -/
def supplied (setup : Setup) (supply : Supply) : Setup :=
  { setup with supplies := setup.supplies ++ [supply] }

theorem suppliable_append_singleton {supplies : List Supply} {robot : Text} {kinds : List Text}
    {kind : Text} {quantity : Int} :
    roster.Suppliable supplies { robot, kinds := kinds ++ [kind], quantity } ↔
      roster.Suppliable supplies { robot, kinds, quantity } ∧
        kind ∈ roster.kinds ∧ kind ∉ kinds ∧ quantity? supplies robot kind = none := by
  constructor
  · intro suppliable
    obtain ⟨kinds_known, kind_known⟩ := forall_mem_append_singleton.mp suppliable.kind_known
    obtain ⟨kinds_new, kind_new⟩ := forall_mem_append_singleton.mp suppliable.kind_new
    obtain ⟨kind_differs, kinds_nodup⟩ := nodup_append_singleton.mp suppliable.kinds_nodup
    exact ⟨⟨suppliable.robot_declared, kinds_known, kinds_nodup, kinds_new⟩,
      kind_known, kind_differs, kind_new⟩
  · rintro ⟨suppliable, known, differs, new⟩
    refine ⟨suppliable.robot_declared, ?_, ?_, ?_⟩
    · exact forall_mem_append_singleton.mpr ⟨suppliable.kind_known, known⟩
    · exact nodup_append_singleton.mpr ⟨differs, suppliable.kinds_nodup⟩
    · exact forall_mem_append_singleton.mpr ⟨suppliable.kind_new, new⟩

/-- Giving a robot one more kind of items by a record. -/
theorem supplyKind_decides (setup : Setup) (position : Nat) (robot : Text) (kinds : List Text)
    (quantity : Int) (kind : Text) :
    Decides
      (Ledger.supplyKind (roster.kinds.map .string) position quantity
        (roster.account (supplied setup { robot, kinds, quantity }) robot) kind)
      (kind ∈ roster.kinds ∧ kind ∉ kinds ∧ quantity? setup.supplies robot kind = none)
      (roster.account (supplied setup { robot, kinds := kinds ++ [kind], quantity }) robot)
      SetupPass.items.category := by
  by_cases known : kind ∈ roster.kinds
  case neg =>
    exact ⟨fun admissible => absurd admissible.1 known,
      fun _ => ⟨.unknownKind kind position, by simp [Ledger.supplyKind, known], rfl⟩⟩
  let before := supplied setup { robot, kinds, quantity }
  let after := supplied setup { robot, kinds := kinds ++ [kind], quantity }
  have found : (roster.account before robot).inventory.find? (.string kind) =
      some (.string kind, quantity? before.supplies robot kind) := by
    rw [account, find?_inventory, if_pos known]
  have settled : quantity? before.supplies robot kind =
      (quantity? setup.supplies robot kind).or (if kind ∈ kinds then some quantity else none) := by
    simp [before, supplied]
  cases present : quantity? before.supplies robot kind with
  | some old =>
      rw [present] at found settled
      refine ⟨?_, fun _ => ⟨.kindTwice kind robot, ?_, rfl⟩⟩
      · rintro ⟨-, distinct, new⟩
        simp [distinct, new] at settled
      · change Ledger.supplyKind _ position quantity (roster.account before robot) kind =
          .error (.fault (.kindTwice kind (roster.account before robot).name))
        simp [Ledger.supplyKind, known, found]
  | none =>
      rw [present] at found settled
      have distinct : kind ∉ kinds := fun member => by simp [member] at settled
      have new : quantity? setup.supplies robot kind = none :=
        (Option.or_eq_none_iff.mp settled.symm).1
      refine ⟨fun _ => ?_, fun fails => absurd ⟨known, distinct, new⟩ fails⟩
      have entered : quantity? after.supplies robot kind = some quantity := by
        simp [after, supplied, new]
      have others : ∀ other, other ≠ kind →
          quantity? after.supplies robot other = quantity? before.supplies robot other := by
        intro other differs
        simp [after, before, supplied, differs]
      have carried : Ledger.supplyKind (roster.kinds.map .string) position quantity
          (roster.account before robot) kind =
            .ok { roster.account before robot with
              inventory := (roster.account before robot).inventory.enter (.string kind)
                quantity } :=
        Ledger.supplyKind_eq_ok_iff.mpr ⟨List.mem_map_of_mem known, ⟨_, found⟩, rfl⟩
      rw [carried, account, enter_inventory entered others]
      rfl

theorem account_supplied_nil (setup : Setup) (robot other : Text) (quantity : Int) :
    roster.account (supplied setup { robot, kinds := [], quantity }) other =
      roster.account setup other := by
  simp [account, inventory, supplied]

/-- Giving a robot all kinds of items of a record. -/
theorem supplyKinds_decides (setup : Setup) (position : Nat) (record : Supply)
    (robot_declared : record.robot ∈ roster.robots) :
    Decides
      (record.kinds.foldlM
        (Ledger.supplyKind (roster.kinds.map .string) position record.quantity)
        (roster.account setup record.robot))
      (roster.Suppliable setup.supplies record)
      (roster.account (supplied setup record) record.robot) SetupPass.items.category := by
  obtain ⟨robot, kinds, quantity⟩ := record
  let part (kinds : List Text) : Supply := { robot, kinds, quantity }
  have pass : Pass (Ledger.supplyKind (roster.kinds.map .string) position quantity)
      (fun kind => kind) (fun kinds => roster.account (supplied setup (part kinds)) robot)
      (fun kinds => roster.Suppliable setup.supplies (part kinds))
      (fun kinds kind =>
        kind ∈ roster.kinds ∧ kind ∉ kinds ∧ quantity? setup.supplies robot kind = none)
      SetupPass.items.category :=
    ⟨fun _ _ => suppliable_append_singleton, fun done kind _ =>
      supplyKind_decides setup position robot done quantity kind⟩
  have start : roster.Suppliable setup.supplies (part []) :=
    ⟨robot_declared, by simp [part], List.nodup_nil, by simp [part]⟩
  have run := pass.run_decides kinds [] start
  simpa only [part, account_supplied_nil, List.nil_append, List.map_id'] using run

theorem books_supplied (distinct : roster.Distinct) (setup : Setup) (record : Supply)
    (robot_declared : record.robot ∈ roster.robots) :
    roster.books (supplied setup record) =
      { roster.books setup with
        accounts := (roster.books setup).accounts.set record.robot
          (roster.account (supplied setup record) record.robot) } := by
  rw [set_account distinct robot_declared setup (supplied setup record)]
  · rfl
  · intro other differs
    simp [account, inventory, supplied, Ne.symm differs]

/-- Carrying out one more record of items. -/
theorem supply_decides (distinct : roster.Distinct) (setup : Setup) (position : Nat)
    (record : Supply) :
    Decides ((roster.books setup).supply (roster.kinds.map .string) position record)
      (roster.Suppliable setup.supplies record) (roster.books (supplied setup record))
      SetupPass.items.category := by
  by_cases robot_declared : record.robot ∈ roster.robots
  case neg =>
    have unknown := books_account_of_notMem setup robot_declared
    exact ⟨fun suppliable => absurd suppliable.robot_declared robot_declared,
      fun _ => ⟨.unknownReceiver record.robot position, by simp [Ledger.supply, unknown], rfl⟩⟩
  have found := books_account_of_mem distinct setup robot_declared
  have kinds_decide := supplyKinds_decides setup position record robot_declared
  refine ⟨fun suppliable => ?_, fun fails => ?_⟩
  · rw [Ledger.supply, found, books_supplied distinct setup record robot_declared]
    exact kinds_decide.bind_goes_on suppliable _
  · rw [Ledger.supply, found]
    exact kinds_decide.bind_stops fails _

/-- Giving out items. -/
theorem supplyAll_decides (distinct : roster.Distinct) (grants : List Grant)
    (supplies : List Supply) :
    Decides
      ((roster.books { grants, supplies := [], origins := [] }).supplyAll
        (roster.kinds.map .string) supplies)
      (roster.SuppliesAllowed supplies) (roster.books { grants, supplies, origins := [] })
      SetupPass.items.category := by
  let state (supplies : List Supply) : Ledger := roster.books { grants, supplies, origins := [] }
  have pass : Pass
      (fun ledger (entry : Supply × Nat) =>
        ledger.supply (roster.kinds.map .string) entry.2 entry.1) (·.1) state
      roster.SuppliesAllowed roster.Suppliable SetupPass.items.category :=
    ⟨fun _ _ => suppliesAllowed_append_singleton, fun done entry _ =>
      supply_decides distinct { grants, supplies := done, origins := [] } entry.2 entry.1⟩
  exact eachRecord_decides pass roster.suppliesAllowed_nil 1 supplies

theorem covers_books (distinct : roster.Distinct) (setup : Setup) (point : Point)
    (names : List Text) (declared : ∀ name ∈ names, name ∈ roster.areas.map (·.name)) :
    (roster.books setup).covers point names =
      .ok (decide (∃ area ∈ roster.areas, area.name ∈ names ∧ area.extent.contains point)) := by
  induction names with
  | nil => simp [Ledger.covers]
  | cons name rest ih =>
      obtain ⟨area, member, rfl⟩ := List.mem_map.mp (declared name List.mem_cons_self)
      have later := ih fun other other_member =>
        declared other (List.mem_cons_of_mem _ other_member)
      simp only [Ledger.covers, books_usage_of_mem distinct setup member, usage]
      by_cases inside : area.extent.contains point
      · rw [if_pos inside, decide_eq_true ⟨area, member, List.mem_cons_self, inside⟩]
      · rw [if_neg inside, later]
        refine congrArg Except.ok (decide_eq_decide.mpr ?_)
        refine exists_congr fun other => and_congr_right fun other_member => ?_
        rw [List.mem_cons]
        constructor
        · rintro ⟨later, covers⟩
          exact ⟨.inr later, covers⟩
        · rintro ⟨same | later, covers⟩
          · have equal := List.inj_on_of_nodup_map distinct.areas_nodup other_member member same
            exact absurd (equal ▸ covers) inside
          · exact ⟨later, covers⟩

theorem covers_account (distinct : roster.Distinct) (setup : Setup) (origin : Origin)
    (granted : ∀ grant ∈ setup.grants, grant.area ∈ roster.areas.map (·.name)) :
    (roster.books setup).covers origin.point (roster.account setup origin.robot).areas =
      .ok (decide (roster.Covered setup.grants origin)) := by
  rw [covers_books distinct setup]
  · simp only [account, mem_areasOf]
    rfl
  · intro name held
    exact granted _ (mem_areasOf.mp held)

theorem starter?_eq_none_iff (setup : Setup) (point : Point)
    (fit : roster.OriginsFit setup.grants setup.origins) :
    (roster.books setup).starter? point = none ↔ point ∉ setup.origins.map (·.point) := by
  simp only [Ledger.starter?, books, NameTable.values_tabulate, List.find?_eq_none,
    List.forall_mem_map, account, originOf?_eq_some_iff fit.robots_nodup, decide_eq_true_eq]
  constructor
  · intro nobody taken
    obtain ⟨origin, member, rfl⟩ := List.mem_map.mp taken
    exact nobody origin.robot (fit.robot_declared origin member) member
  · exact fun free robot _ member => free (List.mem_map_of_mem member)

theorem books_placed (distinct : roster.Distinct) (setup : Setup) {origin : Origin}
    (robot_declared : origin.robot ∈ roster.robots)
    (robot_new : originOf? setup.origins origin.robot = none) :
    roster.books { setup with origins := setup.origins ++ [origin] } =
      { roster.books setup with
        accounts := (roster.books setup).accounts.set origin.robot
          { roster.account setup origin.robot with origin := some origin.point } } := by
  let changed : Setup := { setup with origins := setup.origins ++ [origin] }
  have account_changed : roster.account changed origin.robot =
      { roster.account setup origin.robot with origin := some origin.point } := by
    simp [changed, account, originOf?_append_singleton, robot_new]
  rw [← account_changed, set_account distinct robot_declared setup changed]
  · rfl
  · intro other differs
    simp [changed, account, originOf?_append_singleton, Ne.symm differs]

/-- Letting one more robot start. -/
theorem place_decides (distinct : roster.Distinct) (setup : Setup) (position : Nat)
    (record : Origin)
    (granted : ∀ grant ∈ setup.grants, grant.area ∈ roster.areas.map (·.name))
    (fit : roster.OriginsFit setup.grants setup.origins) :
    Decides ((roster.books setup).place position record)
      (roster.Startable setup.grants setup.origins record)
      (roster.books { setup with origins := setup.origins ++ [record] })
      SetupPass.origins.category := by
  by_cases robot_declared : record.robot ∈ roster.robots
  case neg =>
    have unknown := books_account_of_notMem setup robot_declared
    exact ⟨fun startable => absurd startable.robot_declared robot_declared,
      fun _ => ⟨.unknownStarter record.robot position, by simp [Ledger.place, unknown], rfl⟩⟩
  have found := books_account_of_mem distinct setup robot_declared
  cases placed : originOf? setup.origins record.robot with
  | some point =>
      refine ⟨fun startable => ?_, fun _ => ⟨.originTwice record.robot position,
        by simp [Ledger.place, found, account, placed], rfl⟩⟩
      rw [originOf?_eq_none_iff.mpr startable.robot_new] at placed
      cases placed
  | none =>
      have robot_new := originOf?_eq_none_iff.mp placed
      have no_origin : (roster.account setup record.robot).origin.isSome = false := by
        simp [account, placed]
      have covers := covers_account distinct setup record granted
      by_cases covered : roster.Covered setup.grants record
      case neg =>
        exact ⟨fun startable => absurd startable.covered covered,
          fun _ => ⟨.originOutside record.robot position,
            by simp [Ledger.place, found, no_origin, covers, covered], rfl⟩⟩
      -- The robot itself starts nowhere yet, so whoever stands at this corner is another one.
      cases taken : (roster.books setup).starter? record.point with
      | some other =>
          refine ⟨fun startable => ?_, fun _ => ⟨.originTaken other.name record.robot,
            by simp [Ledger.place, found, no_origin, covers, covered, taken], rfl⟩⟩
          rw [(starter?_eq_none_iff setup record.point fit).mpr startable.point_free] at taken
          cases taken
      | none =>
          have free := (starter?_eq_none_iff setup record.point fit).mp taken
          refine ⟨fun _ => ?_,
            fun fails => absurd ⟨robot_declared, robot_new, covered, free⟩ fails⟩
          rw [books_placed distinct setup robot_declared placed]
          simp [Ledger.place, found, no_origin, covers, covered, taken]

/-- Letting robots start. -/
theorem placeAll_decides (distinct : roster.Distinct) (setup : Setup)
    (granted : ∀ grant ∈ setup.grants, grant.area ∈ roster.areas.map (·.name)) :
    Decides ((roster.books { setup with origins := [] }).placeAll setup.origins)
      (roster.OriginsFit setup.grants setup.origins) (roster.books setup)
      SetupPass.origins.category := by
  let state (origins : List Origin) : Ledger := roster.books { setup with origins }
  have pass : Pass (fun ledger (entry : Origin × Nat) => ledger.place entry.2 entry.1) (·.1) state
      (roster.OriginsFit setup.grants) (roster.Startable setup.grants)
      SetupPass.origins.category :=
    ⟨fun _ _ => originsFit_append_singleton, fun done entry fit =>
      place_decides distinct { setup with origins := done } entry.2 entry.1 granted fit⟩
  exact eachRecord_decides pass (roster.originsFit_nil setup.grants) 1 setup.origins

/-- Looking for robots without an origin. -/
theorem unplaced?_decides (roster : Roster) (setup : Setup) :
    Decides (stopAt (roster.books setup).unplaced?)
      (∀ robot ∈ roster.robots, robot ∈ setup.origins.map (·.robot)) ()
      SetupPass.origins.category := by
  apply stopAt_decides
  · simp only [Ledger.unplaced?, books, NameTable.values_tabulate, Option.map_eq_none_iff,
      List.find?_eq_none, List.forall_mem_map, account, Option.isNone_iff_eq_none,
      originOf?_eq_none_iff, not_not]
  · intro fault found
    obtain ⟨account, -, rfl⟩ := Option.map_eq_some_iff.mp found
    rfl

end Roster
end RobotCity
