import RobotCity.Check.Areas
import RobotCity.Proofs.City
import RobotCity.Proofs.Numerals
import RobotCity.Proofs.Searches

/-!
# Accepted areas

The areas of a city are accepted exactly if the bounds of the city can be shown, each area lies in the
city with its corners in order and any two differ in their names and share no corner.
-/

namespace RobotCity

namespace Grid

/-- Both bounds of a city can be shown. -/
structure Showable (grid : Grid) : Prop where
  low_short : Text.IsShort grid.low
  high_short : Text.IsShort grid.high

/-- The words for the coordinates in a city, however long its bounds are. -/
def coordinates (grid : Grid) : String :=
  s!"between {String.ofList (Text.intNumeral grid.low)} and " ++
    s!"{String.ofList (Text.intNumeral grid.high)} on each axis"

variable {grid : Grid}

theorem showable_iff :
    grid.Showable ↔ Text.IsShort grid.low ∧ Text.IsShort grid.high :=
  ⟨fun ⟨low_short, high_short⟩ => ⟨low_short, high_short⟩,
    fun ⟨low_short, high_short⟩ => ⟨low_short, high_short⟩⟩

instance (grid : Grid) : Decidable grid.Showable :=
  decidable_of_iff _ showable_iff.symm

theorem boundsText_of_showable (showable : grid.Showable) :
    grid.boundsText = .ok grid.coordinates := by
  rw [boundsText, Text.showInteger_of_short showable.low_short,
    Text.showInteger_of_short showable.high_short, coordinates]
  simp only [bind, Except.bind, pure, Except.pure, ← String.append_assoc]

theorem boundsText_of_not_showable (long : ¬grid.Showable) :
    grid.boundsText = .error .longInteger := by
  rw [boundsText]
  by_cases low_short : Text.IsShort grid.low
  · have high_long : ¬Text.IsShort grid.high := fun high_short => long ⟨low_short, high_short⟩
    rw [Text.showInteger_of_short low_short, Text.showInteger_of_long high_long]
    rfl
  · rw [Text.showInteger_of_long low_short]
    rfl

end Grid

/-- A city whose avenues and streets go up to a number of 4301 digits. -/
def endlessGrid : Grid := ⟨1, Text.leastLong⟩

theorem endlessGrid_not_showable : ¬endlessGrid.Showable :=
  fun showable => Text.leastLong_not_short showable.high_short

namespace Area

/-- An area lies in the city, and its corners are in order. -/
structure Lies (grid : Grid) (area : Area) : Prop where
  low_inside : grid.extent.contains area.extent.low
  high_inside : grid.extent.contains area.extent.high
  ordered : area.extent.isOrdered

/-- Two areas have names of their own and do not overlap. -/
structure Apart (earlier later : Area) : Prop where
  names_differ : earlier.name ≠ later.name
  separate : ¬earlier.extent.overlaps later.extent

variable {grid : Grid} {bounds : String}

theorem outsideFault?_eq_none_iff {area : Area} :
    area.outsideFault? grid bounds = none ↔
      grid.extent.contains area.extent.low ∧ grid.extent.contains area.extent.high := by
  unfold outsideFault?
  cases grid.extent.contains area.extent.low <;> cases grid.extent.contains area.extent.high <;>
    simp

theorem orderFault?_eq_none_iff {area : Area} :
    area.orderFault? = none ↔ area.extent.isOrdered := by
  simp [orderFault?]

theorem clashFault?_eq_none_iff (position : Nat) (area : Area) (earlier : Area × Nat) :
    area.clashFault? position earlier = none ↔ earlier.1.Apart area := by
  unfold clashFault?
  constructor
  · intro clash
    split at clash
    · cases clash
    · split at clash
      · cases clash
      · exact ⟨‹_›, ‹_›⟩
  · intro apart
    rw [if_neg apart.names_differ, if_neg apart.separate]

theorem fault?_eq_none_iff {before : List Area} {area : Area} :
    area.fault? grid bounds before = none ↔
      area.Lies grid ∧ ∀ earlier ∈ before, earlier.Apart area := by
  have clashes := findSome?_zipIdx_eq_none_iff (·.Apart area)
    (clashFault?_eq_none_iff before.length area) before 0
  rw [fault?, Option.or_eq_none_iff, Option.or_eq_none_iff, outsideFault?_eq_none_iff,
    orderFault?_eq_none_iff, clashes, ← and_assoc]
  refine and_congr_left fun _ => ?_
  exact ⟨fun ⟨⟨low, high⟩, ordered⟩ => ⟨low, high, ordered⟩,
    fun ⟨low, high, ordered⟩ => ⟨⟨low, high⟩, ordered⟩⟩

end Area

/-- Areas behind others are accepted if each fits the city and all areas before it. -/
theorem areasFaultFrom?_eq_none_iff {grid : Grid} {bounds : String}
    (before areas : List Area) :
    areasFaultFrom? grid bounds before areas = none ↔
      (∀ area ∈ areas, area.Lies grid) ∧
        (∀ earlier ∈ before, ∀ area ∈ areas, earlier.Apart area) ∧ areas.Pairwise Area.Apart := by
  induction areas generalizing before with
  | nil => simp [areasFaultFrom?]
  | cons area rest ih =>
      rw [areasFaultFrom?, Option.or_eq_none_iff, Area.fault?_eq_none_iff, ih,
        List.pairwise_cons, List.forall_mem_cons, List.forall_mem_append,
        List.forall_mem_singleton]
      constructor
      · rintro ⟨⟨lies, apart⟩, rest_lie, ⟨before_apart, area_apart⟩, rest_apart⟩
        refine ⟨⟨lies, rest_lie⟩, fun earlier member => ?_, area_apart, rest_apart⟩
        exact List.forall_mem_cons.mpr ⟨apart earlier member, before_apart earlier member⟩
      · rintro ⟨⟨lies, rest_lie⟩, before_apart, area_apart, rest_apart⟩
        refine ⟨⟨lies, fun earlier member => ?_⟩, rest_lie, ⟨fun earlier member => ?_, area_apart⟩,
          rest_apart⟩
        · exact (List.forall_mem_cons.mp (before_apart earlier member)).1
        · exact (List.forall_mem_cons.mp (before_apart earlier member)).2

section Areas

variable {grid : Grid} {areas : List Area}

theorem areasFault?_of_showable (showable : grid.Showable) :
    areasFault? grid areas = .ok (areasFaultFrom? grid grid.coordinates [] areas) := by
  rw [areasFault?, Grid.boundsText_of_showable showable]
  rfl

theorem areasFault?_of_not_showable (long : ¬grid.Showable) :
    areasFault? grid areas = .error .longInteger := by
  rw [areasFault?, Grid.boundsText_of_not_showable long]
  rfl

/-- A check of areas breaks off exactly if a bound of the city cannot be shown, whatever the areas are. -/
theorem areasFault?_eq_error_iff {defect : Text.ShowingDefect} :
    areasFault? grid areas = .error defect ↔ ¬grid.Showable := by
  by_cases showable : grid.Showable
  · simp [areasFault?_of_showable showable, showable]
  · cases defect
    simp [areasFault?_of_not_showable showable, showable]

theorem areasFault?_eq_ok_iff {found : Option AreaFault} :
    areasFault? grid areas = .ok found ↔
      grid.Showable ∧ areasFaultFrom? grid grid.coordinates [] areas = found := by
  by_cases showable : grid.Showable
  · simp [areasFault?_of_showable showable, showable]
  · simp [areasFault?_of_not_showable showable, showable]

/-- Areas are accepted exactly if the bounds of the city can be shown, each area lies in the city and any
two are apart. -/
theorem areasFault?_eq_none_iff :
    areasFault? grid areas = .ok none ↔
      grid.Showable ∧ (∀ area ∈ areas, area.Lies grid) ∧ areas.Pairwise Area.Apart := by
  simp [areasFault?_eq_ok_iff, areasFaultFrom?_eq_none_iff]

end Areas

theorem areas_nodup_of_apart {areas : List Area} (apart : areas.Pairwise Area.Apart) :
    (areas.map (·.name)).Nodup :=
  List.pairwise_map.mpr (apart.imp Area.Apart.names_differ)

/-- Of areas that are apart at most one holds a corner. -/
theorem filter_contains_of_apart {areas : List Area} (apart : areas.Pairwise Area.Apart)
    {area : Area} (member : area ∈ areas) {point : Point}
    (inside : area.extent.contains point) :
    areas.filter (·.extent.contains point) = [area] := by
  refine filter_eq_singleton (apart.imp ?_) member inside
  intro earlier later apart_areas inside_earlier inside_later
  exact apart_areas.separate (Rectangle.overlaps_of_contains inside_earlier inside_later)

end RobotCity
