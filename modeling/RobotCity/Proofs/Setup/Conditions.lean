import Mathlib.Data.List.Count
import Mathlib.Data.List.Nodup
import Mathlib.Tactic.MkIffOfInductiveProp
import RobotCity.Check.Setup

/-!
# Conditions on setups

What a setup has to fulfil is said here without any books: four conditions on its records, one for
each pass of the check.  None of them depends on the order of the records.  Beside each condition on
a list of records stands what one more record has to fulfil behind those that are in order.
-/

namespace RobotCity

section OneMore

variable {α : Type} {items : List α} {item : α}

theorem forall_mem_append_singleton {condition : α → Prop} :
    (∀ other ∈ items ++ [item], condition other) ↔
      (∀ other ∈ items, condition other) ∧ condition item := by
  rw [List.forall_mem_append, List.forall_mem_singleton]

theorem nodup_append_singleton : (items ++ [item]).Nodup ↔ item ∉ items ∧ items.Nodup := by
  rw [← List.concat_eq_append, List.nodup_concat]

end OneMore

/-- What the records of a setup refer to. -/
structure Roster where
  /-- The declared areas. -/
  areas : List Area
  /-- The names of the declared robots. -/
  robots : List Text
  /-- How many robots count for the limits of areas. -/
  headcount : Nat
  /-- The kinds of items that robots may carry. -/
  kinds : List Text

namespace Roster

/-- The roster of declared robots and areas. -/
def ofDeclared (robots : List Robot) (areas : List Area) (kinds : List Text) : Roster :=
  { areas, robots := robots.map (·.name), headcount := robots.length, kinds }

/-- A roster on which no name stands twice. -/
structure Distinct (roster : Roster) : Prop where
  areas_nodup : (roster.areas.map (·.name)).Nodup
  robots_nodup : roster.robots.Nodup

end Roster

/-- How often an area is given out. -/
def holderCount (grants : List Grant) (area : Text) : Nat :=
  grants.countP (·.area = area)

@[simp]
theorem holderCount_nil (area : Text) : holderCount [] area = 0 := rfl

@[simp]
theorem holderCount_append_singleton (grants : List Grant) (grant : Grant) (area : Text) :
    holderCount (grants ++ [grant]) area =
      holderCount grants area + if grant.area = area then 1 else 0 := by
  simp [holderCount, List.countP_append, List.countP_singleton]

theorem Occupancy.capacity_nonneg (occupancy : Occupancy) (robots : Nat) :
    0 ≤ occupancy.capacity robots := by
  cases occupancy with
  | shared => exact Int.natCast_nonneg robots
  | semiPrivate => exact Int.le_trans Int.one_nonneg (Int.le_max_right _ _)
  | exclusive => exact Int.one_nonneg

namespace Roster

/-- Areas are given out in order: declared ones to declared robots, none twice to one robot, and
each to as many robots as may hold it. -/
@[mk_iff]
structure GrantsAllowed (roster : Roster) (grants : List Grant) : Prop where
  area_declared : ∀ grant ∈ grants, grant.area ∈ roster.areas.map (·.name)
  robot_declared : ∀ grant ∈ grants, grant.robot ∈ roster.robots
  grants_nodup : grants.Nodup
  limited : ∀ area ∈ roster.areas,
    holderCount grants area.name ≤ area.occupancy.capacity roster.headcount

/-- One more area may be given out. -/
structure Grantable (roster : Roster) (grants : List Grant) (grant : Grant) : Prop where
  area_declared : grant.area ∈ roster.areas.map (·.name)
  robot_declared : grant.robot ∈ roster.robots
  grant_new : grant ∉ grants
  free : ∀ area ∈ roster.areas, area.name = grant.area →
    holderCount grants area.name < area.occupancy.capacity roster.headcount

theorem grantsAllowed_nil (roster : Roster) : roster.GrantsAllowed [] where
  area_declared := by simp
  robot_declared := by simp
  grants_nodup := List.nodup_nil
  limited area _ := by simpa using area.occupancy.capacity_nonneg roster.headcount

theorem grantsAllowed_append_singleton {roster : Roster} {grants : List Grant} {grant : Grant} :
    roster.GrantsAllowed (grants ++ [grant]) ↔
      roster.GrantsAllowed grants ∧ roster.Grantable grants grant := by
  constructor
  · intro allowed
    obtain ⟨areas_declared, area_declared⟩ := forall_mem_append_singleton.mp allowed.area_declared
    obtain ⟨robots_declared, robot_declared⟩ :=
      forall_mem_append_singleton.mp allowed.robot_declared
    obtain ⟨grant_new, grants_nodup⟩ := nodup_append_singleton.mp allowed.grants_nodup
    refine ⟨⟨areas_declared, robots_declared, grants_nodup, ?_⟩,
      area_declared, robot_declared, grant_new, ?_⟩
    · intro area member
      have limited := allowed.limited area member
      rw [holderCount_append_singleton] at limited
      omega
    · intro area member same
      have limited := allowed.limited area member
      rw [holderCount_append_singleton, if_pos same.symm] at limited
      omega
  · rintro ⟨allowed, grantable⟩
    refine ⟨?_, ?_, ?_, ?_⟩
    · exact forall_mem_append_singleton.mpr ⟨allowed.area_declared, grantable.area_declared⟩
    · exact forall_mem_append_singleton.mpr ⟨allowed.robot_declared, grantable.robot_declared⟩
    · exact nodup_append_singleton.mpr ⟨grantable.grant_new, allowed.grants_nodup⟩
    · intro area member
      have limited := allowed.limited area member
      rw [holderCount_append_singleton]
      by_cases same : grant.area = area.name
      · have free := grantable.free area member same.symm
        rw [if_pos same]
        omega
      · rw [if_neg same]
        omega

/-- Every area is given out, and every robot is given an area. -/
@[mk_iff]
structure AllTakePart (roster : Roster) (grants : List Grant) : Prop where
  area_used : ∀ area ∈ roster.areas, ∃ grant ∈ grants, grant.area = area.name
  robot_holds : ∀ robot ∈ roster.robots, ∃ grant ∈ grants, grant.robot = robot

end Roster

/-- What a record gives out: to its robot each of its kinds. -/
def Supply.portions (supply : Supply) : List (Text × Text) :=
  supply.kinds.map fun kind => (supply.robot, kind)

@[simp]
theorem Supply.mem_portions {supply : Supply} {robot kind : Text} :
    (robot, kind) ∈ supply.portions ↔ supply.robot = robot ∧ kind ∈ supply.kinds := by
  simp only [portions, List.mem_map, Prod.mk.injEq]
  constructor
  · rintro ⟨other, member, same, rfl⟩
    exact ⟨same, member⟩
  · rintro ⟨same, member⟩
    exact ⟨kind, member, same, rfl⟩

/-- The quantity of a kind that records give to a robot. -/
def quantity? (supplies : List Supply) (robot kind : Text) : Option Int :=
  (supplies.find? fun supply => (robot, kind) ∈ supply.portions).map (·.quantity)

@[simp]
theorem quantity?_nil (robot kind : Text) : quantity? [] robot kind = none := rfl

@[simp]
theorem quantity?_append_singleton (supplies : List Supply) (supply : Supply)
    (robot kind : Text) :
    quantity? (supplies ++ [supply]) robot kind =
      (quantity? supplies robot kind).or
        (if supply.robot = robot ∧ kind ∈ supply.kinds then some supply.quantity else none) := by
  simp only [quantity?, List.find?_append, Option.map_or, List.find?_singleton,
    Supply.mem_portions, decide_eq_true_eq]
  split <;> simp

theorem quantity?_eq_none_iff {supplies : List Supply} {robot kind : Text} :
    quantity? supplies robot kind = none ↔ (robot, kind) ∉ supplies.flatMap Supply.portions := by
  simp only [quantity?, Option.map_eq_none_iff, List.find?_eq_none, decide_eq_true_eq,
    List.mem_flatMap, not_exists, not_and]

namespace Roster

/-- Items are given out in order: known kinds to declared robots, and no kind twice to one robot, be
it by two records or by one. -/
@[mk_iff]
structure SuppliesAllowed (roster : Roster) (supplies : List Supply) : Prop where
  robot_declared : ∀ supply ∈ supplies, supply.robot ∈ roster.robots
  kind_known : ∀ supply ∈ supplies, ∀ kind ∈ supply.kinds, kind ∈ roster.kinds
  portions_nodup : (supplies.flatMap Supply.portions).Nodup

/-- One more record of items may be carried out. -/
structure Suppliable (roster : Roster) (supplies : List Supply) (supply : Supply) : Prop where
  robot_declared : supply.robot ∈ roster.robots
  kind_known : ∀ kind ∈ supply.kinds, kind ∈ roster.kinds
  kinds_nodup : supply.kinds.Nodup
  kind_new : ∀ kind ∈ supply.kinds, quantity? supplies supply.robot kind = none

theorem suppliesAllowed_nil (roster : Roster) : roster.SuppliesAllowed [] where
  robot_declared := by simp
  kind_known := by simp
  portions_nodup := List.nodup_nil

end Roster

theorem Supply.portions_nodup_iff {supply : Supply} :
    supply.portions.Nodup ↔ supply.kinds.Nodup :=
  List.nodup_map_iff fun _ _ same => (Prod.mk.inj same).2

theorem portions_append_singleton_nodup {supplies : List Supply} {supply : Supply} :
    ((supplies ++ [supply]).flatMap Supply.portions).Nodup ↔
      (supplies.flatMap Supply.portions).Nodup ∧ supply.kinds.Nodup ∧
        ∀ kind ∈ supply.kinds, quantity? supplies supply.robot kind = none := by
  have apart : (∀ portion ∈ supplies.flatMap Supply.portions, ∀ other ∈ supply.portions,
      portion ≠ other) ↔ ∀ kind ∈ supply.kinds, quantity? supplies supply.robot kind = none := by
    simp only [quantity?_eq_none_iff]
    constructor
    · exact fun differ kind member given => differ _ given _ (by simp [member]) rfl
    · rintro unknown portion given ⟨robot, kind⟩ member rfl
      obtain ⟨rfl, kind_member⟩ := Supply.mem_portions.mp member
      exact unknown kind kind_member given
  rw [List.flatMap_append, List.flatMap_singleton, List.nodup_append,
    Supply.portions_nodup_iff, apart]

namespace Roster

theorem suppliesAllowed_append_singleton {roster : Roster} {supplies : List Supply}
    {supply : Supply} :
    roster.SuppliesAllowed (supplies ++ [supply]) ↔
      roster.SuppliesAllowed supplies ∧ roster.Suppliable supplies supply := by
  constructor
  · intro allowed
    obtain ⟨robots_declared, robot_declared⟩ :=
      forall_mem_append_singleton.mp allowed.robot_declared
    obtain ⟨kinds_known, kind_known⟩ := forall_mem_append_singleton.mp allowed.kind_known
    obtain ⟨portions_nodup, kinds_nodup, kind_new⟩ :=
      portions_append_singleton_nodup.mp allowed.portions_nodup
    exact ⟨⟨robots_declared, kinds_known, portions_nodup⟩,
      robot_declared, kind_known, kinds_nodup, kind_new⟩
  · rintro ⟨allowed, suppliable⟩
    refine ⟨?_, ?_, ?_⟩
    · exact forall_mem_append_singleton.mpr ⟨allowed.robot_declared, suppliable.robot_declared⟩
    · exact forall_mem_append_singleton.mpr ⟨allowed.kind_known, suppliable.kind_known⟩
    · exact portions_append_singleton_nodup.mpr
        ⟨allowed.portions_nodup, suppliable.kinds_nodup, suppliable.kind_new⟩

/-- A corner lies in an area that a robot holds. -/
def Covered (roster : Roster) (grants : List Grant) (origin : Origin) : Prop :=
  ∃ area ∈ roster.areas, { robot := origin.robot, area := area.name } ∈ grants ∧
    area.extent.contains origin.point

instance (roster : Roster) (grants : List Grant) (origin : Origin) :
    Decidable (roster.Covered grants origin) :=
  inferInstanceAs (Decidable (∃ area ∈ roster.areas,
    { robot := origin.robot, area := area.name : Grant } ∈ grants ∧
      area.extent.contains origin.point))

/-- Robots start in order: each declared robot, and no other, at exactly one corner, in one of its
areas, and no two at the same corner. -/
@[mk_iff]
structure OriginsAllowed (roster : Roster) (grants : List Grant) (origins : List Origin) :
    Prop where
  robot_declared : ∀ origin ∈ origins, origin.robot ∈ roster.robots
  placed_once : ∀ robot ∈ roster.robots, (origins.map (·.robot)).count robot = 1
  covered : ∀ origin ∈ origins, roster.Covered grants origin
  points_nodup : (origins.map (·.point)).Nodup

/-- What holds of origins before all robots have theirs. -/
structure OriginsFit (roster : Roster) (grants : List Grant) (origins : List Origin) : Prop where
  robot_declared : ∀ origin ∈ origins, origin.robot ∈ roster.robots
  robots_nodup : (origins.map (·.robot)).Nodup
  covered : ∀ origin ∈ origins, roster.Covered grants origin
  points_nodup : (origins.map (·.point)).Nodup

/-- One more robot may start. -/
structure Startable (roster : Roster) (grants : List Grant) (origins : List Origin)
    (origin : Origin) : Prop where
  robot_declared : origin.robot ∈ roster.robots
  robot_new : origin.robot ∉ origins.map (·.robot)
  covered : roster.Covered grants origin
  point_free : origin.point ∉ origins.map (·.point)

theorem originsFit_nil (roster : Roster) (grants : List Grant) : roster.OriginsFit grants [] where
  robot_declared := by simp
  robots_nodup := List.nodup_nil
  covered := by simp
  points_nodup := List.nodup_nil

theorem originsFit_append_singleton {roster : Roster} {grants : List Grant}
    {origins : List Origin} {origin : Origin} :
    roster.OriginsFit grants (origins ++ [origin]) ↔
      roster.OriginsFit grants origins ∧ roster.Startable grants origins origin := by
  constructor
  · intro fit
    obtain ⟨robots_declared, robot_declared⟩ := forall_mem_append_singleton.mp fit.robot_declared
    obtain ⟨all_covered, covered⟩ := forall_mem_append_singleton.mp fit.covered
    have robots_nodup := fit.robots_nodup
    have points_nodup := fit.points_nodup
    rw [List.map_append, List.map_singleton, nodup_append_singleton] at robots_nodup points_nodup
    exact ⟨⟨robots_declared, robots_nodup.2, all_covered, points_nodup.2⟩,
      robot_declared, robots_nodup.1, covered, points_nodup.1⟩
  · rintro ⟨fit, startable⟩
    refine ⟨?_, ?_, ?_, ?_⟩
    · exact forall_mem_append_singleton.mpr ⟨fit.robot_declared, startable.robot_declared⟩
    · rw [List.map_append, List.map_singleton, nodup_append_singleton]
      exact ⟨startable.robot_new, fit.robots_nodup⟩
    · exact forall_mem_append_singleton.mpr ⟨fit.covered, startable.covered⟩
    · rw [List.map_append, List.map_singleton, nodup_append_singleton]
      exact ⟨startable.point_free, fit.points_nodup⟩

/-- Origins are in order once they fit and no robot is left without one. -/
theorem originsAllowed_iff_fit {roster : Roster} {grants : List Grant} {origins : List Origin} :
    roster.OriginsAllowed grants origins ↔
      roster.OriginsFit grants origins ∧
        ∀ robot ∈ roster.robots, robot ∈ origins.map (·.robot) := by
  constructor
  · intro allowed
    refine ⟨⟨allowed.robot_declared, ?_, allowed.covered, allowed.points_nodup⟩, ?_⟩
    · rw [List.nodup_iff_count_le_one]
      intro robot
      by_cases declared : robot ∈ origins.map (·.robot)
      · obtain ⟨origin, member, rfl⟩ := List.mem_map.mp declared
        exact Nat.le_of_eq (allowed.placed_once _ (allowed.robot_declared origin member))
      · rw [List.count_eq_zero_of_not_mem declared]
        omega
    · intro robot declared
      have once := allowed.placed_once robot declared
      exact List.count_pos_iff.mp (by omega)
  · rintro ⟨fit, placed⟩
    exact ⟨fit.robot_declared,
      fun robot declared => List.count_eq_one_of_mem fit.robots_nodup (placed robot declared),
      fit.covered, fit.points_nodup⟩

end Roster

/-- A pass of the check of a setup. -/
inductive SetupPass where
  | areas
  | participation
  | items
  | origins
  deriving DecidableEq, Repr

namespace SetupPass

/-- The passes, in order. -/
def all : List SetupPass := [.areas, .participation, .items, .origins]

/-- The label of the faults that a pass finds. -/
def category : SetupPass → String
  | .areas => "Invalid area assignment"
  | .participation => "Unassigned area"
  | .items => "Invalid item assignment"
  | .origins => "Invalid initialization"

end SetupPass

namespace Roster

/-- What a setup has to fulfil in a pass. -/
def Meets (roster : Roster) (setup : Setup) : SetupPass → Prop
  | .areas => roster.GrantsAllowed setup.grants
  | .participation => roster.AllTakePart setup.grants
  | .items => roster.SuppliesAllowed setup.supplies
  | .origins => roster.OriginsAllowed setup.grants setup.origins

instance (roster : Roster) (setup : Setup) (pass : SetupPass) :
    Decidable (roster.Meets setup pass) :=
  match pass with
  | .areas => decidable_of_iff' _ (grantsAllowed_iff roster setup.grants)
  | .participation => decidable_of_iff' _ (allTakePart_iff roster setup.grants)
  | .items => decidable_of_iff' _ (suppliesAllowed_iff roster setup.supplies)
  | .origins => decidable_of_iff' _ (originsAllowed_iff roster setup.grants setup.origins)

end Roster
end RobotCity
