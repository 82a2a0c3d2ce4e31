import Mathlib.Order.Interval.Set.Basic
import Mathlib.Tactic.SplitIfs
import RobotCity.City

/-!
# Rectangles as sets of corners

The corners of the city form a lattice, and a rectangle holds the interval between its own two.
Rectangles in order overlap exactly if their intervals have a corner in common, and a rectangle with
its two corners in the city lies in the city as a whole.
-/

namespace RobotCity

namespace Point

/-- Corners are compared on both axes: one is up to another if it is neither right of it nor above
it. -/
instance : LE Point where
  le point other := point.x ≤ other.x ∧ point.y ≤ other.y

instance : DecidableLE Point := fun point other =>
  inferInstanceAs (Decidable (point.x ≤ other.x ∧ point.y ≤ other.y))

theorem le_iff {point other : Point} :
    point ≤ other ↔ point.x ≤ other.x ∧ point.y ≤ other.y :=
  Iff.rfl

theorem notAfter_iff_le {point other : Point} : point.notAfter other ↔ point ≤ other := by
  simp [notAfter, le_iff]

instance : PartialOrder Point where
  le_refl point := ⟨le_refl point.x, le_refl point.y⟩
  le_trans _ _ _ first second := ⟨first.1.trans second.1, first.2.trans second.2⟩
  le_antisymm point other before behind := by
    obtain ⟨x, y⟩ := point
    obtain ⟨other_x, other_y⟩ := other
    obtain rfl : x = other_x := le_antisymm before.1 behind.1
    obtain rfl : y = other_y := le_antisymm before.2 behind.2
    rfl

instance : Lattice Point where
  sup point other := { x := max point.x other.x, y := max point.y other.y }
  le_sup_left point other := ⟨le_max_left point.x other.x, le_max_left point.y other.y⟩
  le_sup_right point other := ⟨le_max_right point.x other.x, le_max_right point.y other.y⟩
  sup_le _ _ _ before other_before :=
    ⟨max_le before.1 other_before.1, max_le before.2 other_before.2⟩
  inf point other := { x := min point.x other.x, y := min point.y other.y }
  inf_le_left point other := ⟨min_le_left point.x other.x, min_le_left point.y other.y⟩
  inf_le_right point other := ⟨min_le_right point.x other.x, min_le_right point.y other.y⟩
  le_inf _ _ _ before before_other :=
    ⟨le_min before.1 before_other.1, le_min before.2 before_other.2⟩

end Point

namespace Rectangle

variable {rectangle other : Rectangle} {point : Point}

theorem contains_iff :
    rectangle.contains point ↔
      (rectangle.low.x ≤ point.x ∧ point.x ≤ rectangle.high.x) ∧
        rectangle.low.y ≤ point.y ∧ point.y ≤ rectangle.high.y := by
  simp [contains]

theorem contains_iff_mem_Icc :
    rectangle.contains point ↔ point ∈ Set.Icc rectangle.low rectangle.high := by
  rw [contains_iff, Set.mem_Icc, Point.le_iff, Point.le_iff]
  exact and_and_and_comm

theorem isOrdered_iff : rectangle.isOrdered ↔ rectangle.low ≤ rectangle.high :=
  Point.notAfter_iff_le

/-- What holds the two corners of a rectangle holds all of it. -/
theorem contains_of_corners (low_inside : rectangle.contains other.low)
    (high_inside : rectangle.contains other.high) (inside : other.contains point) :
    rectangle.contains point := by
  rw [contains_iff_mem_Icc] at low_inside high_inside inside ⊢
  exact Set.Icc_subset_Icc low_inside.1 high_inside.2 inside

theorem overlaps_iff :
    rectangle.overlaps other ↔ other.low ≤ rectangle.high ∧ rectangle.low ≤ other.high := by
  rw [Point.le_iff, Point.le_iff]
  unfold overlaps
  split_ifs <;> simp only [false_iff, true_iff] <;> omega

theorem overlaps_comm (rectangle other : Rectangle) :
    rectangle.overlaps other = other.overlaps rectangle := by
  rw [Bool.eq_iff_iff, overlaps_iff, overlaps_iff, and_comm]

/-- The corners in both of two rectangles are those of a third one. -/
theorem contains_both_iff :
    rectangle.contains point ∧ other.contains point ↔
      point ∈ Set.Icc (rectangle.low ⊔ other.low) (rectangle.high ⊓ other.high) := by
  rw [contains_iff_mem_Icc, contains_iff_mem_Icc, ← Set.mem_inter_iff, Set.Icc_inter_Icc]

/-- Rectangles have a corner in common exactly if they are in order and overlap. -/
theorem exists_contains_both_iff :
    (∃ point, rectangle.contains point ∧ other.contains point) ↔
      (rectangle.isOrdered ∧ other.isOrdered) ∧ rectangle.overlaps other := by
  calc (∃ point, rectangle.contains point ∧ other.contains point)
      ↔ (Set.Icc (rectangle.low ⊔ other.low) (rectangle.high ⊓ other.high)).Nonempty :=
        exists_congr fun _ => contains_both_iff
    _ ↔ rectangle.low ⊔ other.low ≤ rectangle.high ⊓ other.high := Set.nonempty_Icc
    _ ↔ (rectangle.low ≤ rectangle.high ∧ other.low ≤ rectangle.high) ∧
          rectangle.low ≤ other.high ∧ other.low ≤ other.high := by
        rw [le_inf_iff, sup_le_iff, sup_le_iff]
    _ ↔ (rectangle.isOrdered ∧ other.isOrdered) ∧ rectangle.overlaps other := by
        rw [isOrdered_iff, isOrdered_iff, overlaps_iff]
        constructor
        · rintro ⟨⟨ordered, below⟩, above, other_ordered⟩
          exact ⟨⟨ordered, other_ordered⟩, below, above⟩
        · rintro ⟨⟨ordered, other_ordered⟩, below, above⟩
          exact ⟨⟨ordered, below⟩, above, other_ordered⟩

/-- A rectangle out of order may overlap another one, although it has no corners. -/
example : (⟨⟨3, 1⟩, ⟨1, 1⟩⟩ : Rectangle).overlaps ⟨⟨0, 0⟩, ⟨5, 5⟩⟩ := by decide

/-- Rectangles that share a corner overlap. -/
theorem overlaps_of_contains (inside : rectangle.contains point)
    (inside_other : other.contains point) : rectangle.overlaps other :=
  (exists_contains_both_iff.mp ⟨point, inside, inside_other⟩).2

/-- Rectangles with their corners in order overlap only where they share a corner. -/
theorem exists_contains_of_overlaps (ordered : rectangle.isOrdered)
    (other_ordered : other.isOrdered) (overlap : rectangle.overlaps other) :
    ∃ point, rectangle.contains point ∧ other.contains point :=
  exists_contains_both_iff.mpr ⟨⟨ordered, other_ordered⟩, overlap⟩

/-- A rectangle has the corners between its own two, the edges included.  Rectangles in order overlap
exactly if they have a corner in common.  In order or not, overlap does not depend on which of them is
named first. -/
theorem overlap_is_intersection (rectangle other : Rectangle) :
    (∀ point, rectangle.contains point ↔ rectangle.low ≤ point ∧ point ≤ rectangle.high) ∧
      (rectangle.low ≤ rectangle.high → other.low ≤ other.high →
        (rectangle.overlaps other ↔
          ∃ point, rectangle.contains point ∧ other.contains point)) ∧
      rectangle.overlaps other = other.overlaps rectangle := by
  refine ⟨fun _ => contains_iff_mem_Icc, fun ordered other_ordered => ⟨?_, ?_⟩,
    overlaps_comm rectangle other⟩
  · exact exists_contains_of_overlaps (isOrdered_iff.mpr ordered)
      (isOrdered_iff.mpr other_ordered)
  · rintro ⟨point, inside, inside_other⟩
    exact overlaps_of_contains inside inside_other

/-- Rectangles that touch at a corner intersect there; those on neighbouring streets do not. -/
theorem touching_rectangles_intersect :
    (⟨1, 1⟩ : Point) ≤ ⟨5, 5⟩ ∧ (⟨5, 5⟩ : Point) ≤ ⟨9, 9⟩ ∧ (⟨1, 6⟩ : Point) ≤ ⟨5, 9⟩ ∧
      (∃ point, (⟨⟨1, 1⟩, ⟨5, 5⟩⟩ : Rectangle).contains point ∧
        (⟨⟨5, 5⟩, ⟨9, 9⟩⟩ : Rectangle).contains point) ∧
      ¬∃ point, (⟨⟨1, 1⟩, ⟨5, 5⟩⟩ : Rectangle).contains point ∧
        (⟨⟨1, 6⟩, ⟨5, 9⟩⟩ : Rectangle).contains point := by
  have ordered : (⟨1, 1⟩ : Point) ≤ ⟨5, 5⟩ := by decide
  have touching_ordered : (⟨5, 5⟩ : Point) ≤ ⟨9, 9⟩ := by decide
  have apart_ordered : (⟨1, 6⟩ : Point) ≤ ⟨5, 9⟩ := by decide
  have touching := (overlap_is_intersection ⟨⟨1, 1⟩, ⟨5, 5⟩⟩ ⟨⟨5, 5⟩, ⟨9, 9⟩⟩).2.1 ordered
    touching_ordered
  have apart := (overlap_is_intersection ⟨⟨1, 1⟩, ⟨5, 5⟩⟩ ⟨⟨1, 6⟩, ⟨5, 9⟩⟩).2.1 ordered
    apart_ordered
  exact ⟨ordered, touching_ordered, apart_ordered, touching.mp (by decide),
    mt apart.mpr (by decide)⟩

end Rectangle
end RobotCity
