import Mathlib.Order.Bounds.Basic
import RobotCity.Proofs.Areas

/-!
# Areas that are well placed, and the area to blame

Areas are accepted exactly if all of them lie on the grid with their corners in order, have names of
their own and share no corner.  Otherwise the first area to blame is the one with which the areas
from the front stop being so, and the report says what it does wrong.  All this holds of a grid whose
bounds can be shown; on any other one no areas are checked.
-/

namespace RobotCity

/-- The grid has a corner. -/
structure Grid.Admits (grid : Grid) (point : Point) : Prop where
  avenue : grid.low ≤ point.x ∧ point.x ≤ grid.high
  street : grid.low ≤ point.y ∧ point.y ≤ grid.high

theorem Grid.contains_iff_admits {grid : Grid} {point : Point} :
    grid.extent.contains point ↔ grid.Admits point := by
  rw [Rectangle.contains_iff]
  exact ⟨fun ⟨avenue, street⟩ => ⟨avenue, street⟩, fun ⟨avenue, street⟩ => ⟨avenue, street⟩⟩

theorem Grid.contains_eq_false_iff {grid : Grid} {point : Point} :
    grid.extent.contains point = false ↔ ¬grid.Admits point := by
  rw [← contains_iff_admits, Bool.not_eq_true]

namespace Area

/-- An area has a corner of the city, be it on its edges. -/
structure Occupies (area : Area) (point : Point) : Prop where
  avenue : area.extent.low.x ≤ point.x ∧ point.x ≤ area.extent.high.x
  street : area.extent.low.y ≤ point.y ∧ point.y ≤ area.extent.high.y

/-- The first corner of an area is neither right of the second one nor above it. -/
structure Ordered (area : Area) : Prop where
  avenue : area.extent.low.x ≤ area.extent.high.x
  street : area.extent.low.y ≤ area.extent.high.y

/-- Two areas have a corner of the city in common. -/
def Shares (area other : Area) : Prop :=
  ∃ point, area.Occupies point ∧ other.Occupies point

theorem contains_iff_occupies {area : Area} {point : Point} :
    area.extent.contains point ↔ area.Occupies point := by
  rw [Rectangle.contains_iff]
  exact ⟨fun ⟨avenue, street⟩ => ⟨avenue, street⟩, fun ⟨avenue, street⟩ => ⟨avenue, street⟩⟩

theorem isOrdered_iff_ordered {area : Area} : area.extent.isOrdered ↔ area.Ordered := by
  rw [Rectangle.isOrdered_iff, Point.le_iff]
  exact ⟨fun ⟨avenue, street⟩ => ⟨avenue, street⟩, fun ⟨avenue, street⟩ => ⟨avenue, street⟩⟩

theorem overlaps_iff_shares {area other : Area} (ordered : area.Ordered)
    (other_ordered : other.Ordered) : area.extent.overlaps other.extent ↔ area.Shares other := by
  constructor
  · intro overlap
    obtain ⟨point, inside, inside_other⟩ := Rectangle.exists_contains_of_overlaps
      (isOrdered_iff_ordered.mpr ordered) (isOrdered_iff_ordered.mpr other_ordered) overlap
    exact ⟨point, contains_iff_occupies.mp inside, contains_iff_occupies.mp inside_other⟩
  · rintro ⟨point, occupied, occupied_by_other⟩
    exact Rectangle.overlaps_of_contains (contains_iff_occupies.mpr occupied)
      (contains_iff_occupies.mpr occupied_by_other)

end Area

/-- Areas keep to the grid and apart from each other. -/
structure WellPlaced (grid : Grid) (areas : List Area) : Prop where
  inside : ∀ area ∈ areas, grid.Admits area.extent.low ∧ grid.Admits area.extent.high
  ordered : ∀ area ∈ areas, area.Ordered
  names_nodup : (areas.map (·.name)).Nodup
  disjoint : areas.Pairwise fun area other => ¬area.Shares other

theorem Area.lies_iff {grid : Grid} {area : Area} :
    area.Lies grid ↔
      (grid.Admits area.extent.low ∧ grid.Admits area.extent.high) ∧ area.Ordered := by
  rw [← Grid.contains_iff_admits, ← Grid.contains_iff_admits, ← isOrdered_iff_ordered]
  exact ⟨fun ⟨low, high, ordered⟩ => ⟨⟨low, high⟩, ordered⟩,
    fun ⟨⟨low, high⟩, ordered⟩ => ⟨low, high, ordered⟩⟩

theorem wellPlaced_nil (grid : Grid) : WellPlaced grid [] :=
  ⟨List.forall_mem_nil _, List.forall_mem_nil _, .nil, .nil⟩

theorem areasFaultFrom?_eq_none_iff_wellPlaced {grid : Grid} (bounds : String) {areas : List Area} :
    areasFaultFrom? grid bounds [] areas = none ↔ WellPlaced grid areas := by
  rw [areasFaultFrom?_eq_none_iff]
  constructor
  · rintro ⟨lie, -, apart⟩
    have ordered : ∀ area ∈ areas, area.Ordered :=
      fun area member => (Area.lies_iff.mp (lie area member)).2
    refine ⟨fun area member => (Area.lies_iff.mp (lie area member)).1, ordered,
      areas_nodup_of_apart apart, apart.imp_of_mem ?_⟩
    intro area other member other_member apart_areas shared
    exact apart_areas.separate
      ((Area.overlaps_iff_shares (ordered area member) (ordered other other_member)).mpr shared)
  · rintro ⟨inside, ordered, names_nodup, disjoint⟩
    refine ⟨fun area member => Area.lies_iff.mpr ⟨inside area member, ordered area member⟩,
      List.forall_mem_nil _, ?_⟩
    have names_differ := List.pairwise_map.mp names_nodup
    refine (names_differ.and disjoint).imp_of_mem ?_
    rintro area other member other_member ⟨differ, share_nothing⟩
    exact ⟨differ, fun overlap => share_nothing
      ((Area.overlaps_iff_shares (ordered area member) (ordered other other_member)).mp overlap)⟩

/-- Exactly these corners of an area lie off the grid. -/
def OutsideCorners.Leave (grid : Grid) (area : Area) : OutsideCorners → Prop
  | .first => ¬grid.Admits area.extent.low ∧ grid.Admits area.extent.high
  | .second => grid.Admits area.extent.low ∧ ¬grid.Admits area.extent.high
  | .both => ¬grid.Admits area.extent.low ∧ ¬grid.Admits area.extent.high

/-- What a report calls corners of an area. -/
def OutsideCorners.words (area : Text) : OutsideCorners → String
  | .first => s!"The first point of area '{area}'"
  | .second => s!"The second point of area '{area}'"
  | .both => s!"Both points of area '{area}'"

/-- Two areas clash by their names or by a corner in common. -/
def Area.Clashes (earlier later : Area) : Prop :=
  earlier.name = later.name ∨ earlier.Shares later

/-- What is reported of an area behind areas that are well placed. -/
inductive Blames (grid : Grid) (before : List Area) (area : Area) : Report → Prop
  | outside {corners : OutsideCorners} : corners.Leave grid area →
    Blames grid before area
      (.fault "Invalid area declaration"
        s!"{corners.words area.name} must have coordinates {grid.coordinates}")
  | disordered : grid.Admits area.extent.low → grid.Admits area.extent.high → ¬area.Ordered →
    Blames grid before area
      (.fault "Invalid area declaration"
        (s!"The coordinates of the second point of area '{area.name}' must be " ++
          "greater than or equal to those of the first point"))
  | repeated {position : Nat} {earlier : Area} : area.Lies grid →
    before[position]? = some earlier →
    IsLeast {index | ∃ other ∈ before[index]?, other.Clashes area} position →
    earlier.name = area.name →
    Blames grid before area
      (.fault "Invalid area declaration"
        (s!"Identifier '{area.name}' is used in the declaration of area {Text.natText (position + 1)} " ++
          s!"and {Text.natText (before.length + 1)}"))
  | overlapping {position : Nat} {earlier : Area} : area.Lies grid →
    before[position]? = some earlier →
    IsLeast {index | ∃ other ∈ before[index]?, other.Clashes area} position →
    earlier.name ≠ area.name →
    Blames grid before area
      (.fault "Invalid area declaration"
        s!"Area '{earlier.name}' shares points with area '{area.name}'")

/-! ## Faults of one area -/

namespace Area

variable {grid : Grid} {bounds : String} {before : List Area} {area : Area}

theorem outsideFault?_eq_some_iff {fault : AreaFault} :
    area.outsideFault? grid bounds = some fault ↔
      ∃ corners : OutsideCorners, corners.Leave grid area ∧
        fault = .outside corners area.name bounds := by
  unfold outsideFault?
  constructor
  · intro found
    split at found <;> rename_i low high <;> cases found
    · exact ⟨.first, ⟨Grid.contains_eq_false_iff.mp low, Grid.contains_iff_admits.mp high⟩, rfl⟩
    · exact ⟨.second, ⟨Grid.contains_iff_admits.mp low, Grid.contains_eq_false_iff.mp high⟩, rfl⟩
    · exact ⟨.both, ⟨Grid.contains_eq_false_iff.mp low, Grid.contains_eq_false_iff.mp high⟩, rfl⟩
  · rintro ⟨corners, leave, rfl⟩
    cases corners with
    | first =>
        obtain ⟨low, high⟩ := leave
        rw [Grid.contains_eq_false_iff.mpr low, Grid.contains_iff_admits.mpr high]
    | second =>
        obtain ⟨low, high⟩ := leave
        rw [Grid.contains_iff_admits.mpr low, Grid.contains_eq_false_iff.mpr high]
    | both =>
        obtain ⟨low, high⟩ := leave
        rw [Grid.contains_eq_false_iff.mpr low, Grid.contains_eq_false_iff.mpr high]

theorem orderFault?_eq_some_iff {fault : AreaFault} :
    area.orderFault? = some fault ↔ ¬area.Ordered ∧ fault = .disordered area.name := by
  rw [orderFault?, ← isOrdered_iff_ordered]
  by_cases ordered : area.extent.isOrdered <;> simp [ordered, eq_comm]

theorem apart_iff_not_clashes {earlier : Area} (ordered : earlier.Ordered)
    (area_ordered : area.Ordered) : earlier.Apart area ↔ ¬earlier.Clashes area := by
  rw [Clashes, not_or, ← overlaps_iff_shares ordered area_ordered]
  exact ⟨fun ⟨differ, separate⟩ => ⟨differ, separate⟩,
    fun ⟨differ, separate⟩ => ⟨differ, separate⟩⟩

theorem clashFault?_eq_some_iff {position index : Nat} {earlier : Area} {fault : AreaFault}
    (ordered : earlier.Ordered) (area_ordered : area.Ordered) :
    area.clashFault? position (earlier, index) = some fault ↔
      (earlier.name = area.name ∧ fault = .repeated area.name (index + 1) (position + 1)) ∨
        (earlier.name ≠ area.name ∧ earlier.Shares area ∧
          fault = .overlapping earlier.name area.name) := by
  unfold clashFault?
  rw [← overlaps_iff_shares ordered area_ordered]
  by_cases same : earlier.name = area.name
  · simp only [same, if_true, Option.some.injEq, ne_eq, not_true, true_and, false_and, or_false]
    exact eq_comm
  · by_cases overlap : earlier.extent.overlaps area.extent <;> simp [same, overlap, eq_comm]

/-- The fault of an area that is on the grid and in order is with the first area that it clashes
with. -/
theorem clashFault?_search_eq_some_iff {fault : AreaFault}
    (before_ordered : ∀ earlier ∈ before, earlier.Ordered) (area_ordered : area.Ordered) :
    before.zipIdx.findSome? (area.clashFault? before.length) = some fault ↔
      ∃ position earlier, before[position]? = some earlier ∧
        IsLeast {index | ∃ other ∈ before[index]?, other.Clashes area} position ∧
        area.clashFault? before.length (earlier, position) = some fault := by
  rw [findSome?_zipIdx_eq_some_iff]
  refine exists_congr fun position => exists_congr fun earlier => and_congr_right fun present => ?_
  have clear_iff {index : Nat} {other : Area} (there : before[index]? = some other) :
      area.clashFault? before.length (other, index) = none ↔ ¬other.Clashes area := by
    rw [clashFault?_eq_none_iff]
    exact apart_iff_not_clashes (before_ordered other (List.mem_of_getElem? there)) area_ordered
  constructor
  · rintro ⟨here, none_before⟩
    refine ⟨⟨⟨earlier, present, ?_⟩, ?_⟩, here⟩
    · by_contra no_clash
      rw [(clear_iff present).mpr no_clash] at here
      cases here
    · rintro index ⟨other, there, clash⟩
      by_contra less
      exact (clear_iff there).mp (none_before index other (by omega) there) clash
  · rintro ⟨⟨-, least⟩, here⟩
    refine ⟨here, fun index other less there => (clear_iff there).mpr fun clash => ?_⟩
    have := least ⟨other, there, clash⟩
    omega

theorem report_outside (corners : OutsideCorners) (name : Text) :
    (AreaFault.outside corners name bounds).report =
      .fault "Invalid area declaration"
        s!"{corners.words name} must have coordinates {bounds}" := by
  cases corners <;> rfl

theorem blames_of_leave {corners : OutsideCorners} (leave : corners.Leave grid area) :
    Blames grid before area (AreaFault.outside corners area.name grid.coordinates).report := by
  rw [report_outside]
  exact .outside leave

theorem blames_of_clash {position : Nat} {earlier : Area} {fault : AreaFault}
    (lies : area.Lies grid) (ordered : earlier.Ordered) (area_ordered : area.Ordered)
    (present : before[position]? = some earlier)
    (least : IsLeast {index | ∃ other ∈ before[index]?, other.Clashes area} position)
    (clash : area.clashFault? before.length (earlier, position) = some fault) :
    Blames grid before area fault.report := by
  rcases (clashFault?_eq_some_iff ordered area_ordered).mp clash with
    ⟨same, rfl⟩ | ⟨differ, -, rfl⟩
  · exact .repeated lies present least same
  · exact .overlapping lies present least differ

theorem fault?_of_clash {position : Nat} {earlier : Area} {fault : AreaFault}
    (before_ordered : ∀ earlier ∈ before, earlier.Ordered) (lies : area.Lies grid)
    (present : before[position]? = some earlier)
    (least : IsLeast {index | ∃ other ∈ before[index]?, other.Clashes area} position)
    (clash : area.clashFault? before.length (earlier, position) = some fault) :
    area.fault? grid bounds before = some fault := by
  rw [fault?, outsideFault?_eq_none_iff.mpr ⟨lies.low_inside, lies.high_inside⟩,
    orderFault?_eq_none_iff.mpr lies.ordered]
  exact (clashFault?_search_eq_some_iff before_ordered
    (isOrdered_iff_ordered.mp lies.ordered)).mpr ⟨position, earlier, present, least, clash⟩

/-- The report on an area behind areas in order is the one that the rules give. -/
theorem report_eq_some_iff_blames {report : Report}
    (before_ordered : ∀ earlier ∈ before, earlier.Ordered) :
    (area.fault? grid grid.coordinates before).map AreaFault.report = some report ↔
      Blames grid before area report := by
  rw [Option.map_eq_some_iff]
  constructor
  · rintro ⟨fault, found, rfl⟩
    rw [fault?, Option.or_eq_some_iff, Option.or_eq_some_iff] at found
    rcases found with outside | ⟨inside, disordered | ⟨in_order, clash⟩⟩
    · obtain ⟨corners, leave, rfl⟩ := outsideFault?_eq_some_iff.mp outside
      exact blames_of_leave leave
    · obtain ⟨low_inside, high_inside⟩ := outsideFault?_eq_none_iff.mp inside
      obtain ⟨not_ordered, rfl⟩ := orderFault?_eq_some_iff.mp disordered
      exact .disordered (Grid.contains_iff_admits.mp low_inside)
        (Grid.contains_iff_admits.mp high_inside) not_ordered
    · obtain ⟨low_inside, high_inside⟩ := outsideFault?_eq_none_iff.mp inside
      have is_ordered := orderFault?_eq_none_iff.mp in_order
      have area_ordered := isOrdered_iff_ordered.mp is_ordered
      obtain ⟨position, earlier, present, least, here⟩ :=
        (clashFault?_search_eq_some_iff before_ordered area_ordered).mp clash
      exact blames_of_clash ⟨low_inside, high_inside, is_ordered⟩
        (before_ordered earlier (List.mem_of_getElem? present)) area_ordered present least here
  · intro blamed
    cases blamed with
    | @outside corners leave =>
        refine ⟨.outside corners area.name grid.coordinates, ?_, report_outside corners area.name⟩
        rw [fault?, outsideFault?_eq_some_iff.mpr ⟨corners, leave, rfl⟩]
        rfl
    | disordered low_inside high_inside not_ordered =>
        refine ⟨.disordered area.name, ?_, rfl⟩
        rw [fault?, outsideFault?_eq_none_iff.mpr ⟨Grid.contains_iff_admits.mpr low_inside,
          Grid.contains_iff_admits.mpr high_inside⟩,
          orderFault?_eq_some_iff.mpr ⟨not_ordered, rfl⟩]
        rfl
    | @repeated position earlier lies present least same =>
        have clash : area.clashFault? before.length (earlier, position) =
            some (.repeated area.name (position + 1) (before.length + 1)) :=
          (clashFault?_eq_some_iff (before_ordered earlier (List.mem_of_getElem? present))
            (isOrdered_iff_ordered.mp lies.ordered)).mpr (.inl ⟨same, rfl⟩)
        exact ⟨_, fault?_of_clash before_ordered lies present least clash, rfl⟩
    | @overlapping position earlier lies present least differ =>
        obtain ⟨_, there, names_or_corner⟩ := least.1
        obtain rfl := Option.some.inj (present.symm.trans there)
        have shares := names_or_corner.resolve_left differ
        have clash : area.clashFault? before.length (earlier, position) =
            some (.overlapping earlier.name area.name) :=
          (clashFault?_eq_some_iff (before_ordered earlier (List.mem_of_getElem? present))
            (isOrdered_iff_ordered.mp lies.ordered)).mpr (.inr ⟨differ, shares, rfl⟩)
        exact ⟨_, fault?_of_clash before_ordered lies present least clash, rfl⟩

end Area

/-! ## The first area to blame -/

variable {grid : Grid} {bounds : String} {areas : List Area}

theorem WellPlaced.of_sublist {fewer : List Area} (placed : WellPlaced grid areas)
    (sublist : fewer.Sublist areas) : WellPlaced grid fewer where
  inside area member := placed.inside area (sublist.subset member)
  ordered area member := placed.ordered area (sublist.subset member)
  names_nodup := placed.names_nodup.sublist (sublist.map _)
  disjoint := placed.disjoint.sublist sublist

/-- The fault of areas is that of the first area that has one behind those before it. -/
theorem areasFaultFrom?_eq_some_iff {before : List Area} {fault : AreaFault} :
    areasFaultFrom? grid bounds before areas = some fault ↔
      ∃ passed area rest, areas = passed ++ area :: rest ∧
        areasFaultFrom? grid bounds before passed = none ∧
        area.fault? grid bounds (before ++ passed) = some fault := by
  induction areas generalizing before with
  | nil => simp [areasFaultFrom?]
  | cons first others ih =>
      rw [areasFaultFrom?, Option.or_eq_some_iff, ih]
      constructor
      · rintro (here | ⟨clear, passed, area, rest, rfl, passed_clear, there⟩)
        · exact ⟨[], first, others, rfl, rfl, by simpa using here⟩
        · refine ⟨first :: passed, area, rest, rfl, ?_, by simpa using there⟩
          rw [areasFaultFrom?, clear, passed_clear]
          rfl
      · rintro ⟨passed, area, rest, split, passed_clear, there⟩
        cases passed with
        | nil =>
            obtain ⟨rfl, rfl⟩ := List.cons.inj split
            exact .inl (by simpa using there)
        | cons head passed =>
            obtain ⟨rfl, rfl⟩ := List.cons.inj split
            obtain ⟨clear, tail_clear⟩ := Option.or_eq_none_iff.mp passed_clear
            exact .inr ⟨clear, passed, area, rest, rfl, tail_clear, by simpa using there⟩

/-- The first area to blame stands behind areas that are well placed. -/
theorem areasFaultFrom?_report_eq_some_iff {report : Report} :
    (areasFaultFrom? grid grid.coordinates [] areas).map AreaFault.report = some report ↔
      ∃ before area rest, areas = before ++ area :: rest ∧ WellPlaced grid before ∧
        Blames grid before area report := by
  rw [Option.map_eq_some_iff]
  constructor
  · rintro ⟨fault, found, rfl⟩
    obtain ⟨before, area, rest, split, clear, here⟩ := areasFaultFrom?_eq_some_iff.mp found
    have placed := (areasFaultFrom?_eq_none_iff_wellPlaced _).mp clear
    have reported : (area.fault? grid grid.coordinates before).map AreaFault.report = some fault.report :=
      Option.map_eq_some_iff.mpr ⟨fault, here, rfl⟩
    exact ⟨before, area, rest, split, placed,
      (Area.report_eq_some_iff_blames placed.ordered).mp reported⟩
  · rintro ⟨before, area, rest, split, placed, blamed⟩
    obtain ⟨fault, here, same⟩ := Option.map_eq_some_iff.mp
      ((Area.report_eq_some_iff_blames placed.ordered).mpr blamed)
    have clear := (areasFaultFrom?_eq_none_iff_wellPlaced grid.coordinates).mpr placed
    exact ⟨fault, areasFaultFrom?_eq_some_iff.mpr ⟨before, area, rest, split, clear, here⟩, same⟩

theorem not_wellPlaced_of_blames {before : List Area} {area : Area} {report : Report}
    (placed : WellPlaced grid before) (blamed : Blames grid before area report) :
    ¬WellPlaced grid (before ++ [area]) := by
  intro all_placed
  have reported := areasFaultFrom?_report_eq_some_iff.mpr
    ⟨before, area, [], rfl, placed, blamed⟩
  rw [(areasFaultFrom?_eq_none_iff_wellPlaced _).mpr all_placed] at reported
  cases reported

/-- The report on areas that are not well placed is on the area with which they stop being so. -/
theorem areasFaultFrom?_report_eq_some_iff_least {report : Report} :
    (areasFaultFrom? grid grid.coordinates [] areas).map AreaFault.report = some report ↔
      ∃ index area, areas[index]? = some area ∧
        IsLeast {i | ¬WellPlaced grid (areas.take (i + 1))} index ∧
        Blames grid (areas.take index) area report := by
  rw [areasFaultFrom?_report_eq_some_iff]
  constructor
  · rintro ⟨before, area, rest, rfl, placed, blamed⟩
    refine ⟨before.length, area, by simp, ⟨?_, ?_⟩, by simpa using blamed⟩
    · change ¬WellPlaced grid ((before ++ area :: rest).take (before.length + 1))
      rw [List.take_length_add_append, List.take_one]
      exact not_wellPlaced_of_blames placed blamed
    · intro index not_placed
      by_contra less
      refine not_placed (placed.of_sublist ?_)
      rw [List.take_append_of_le_length (by omega)]
      exact List.take_sublist _ _
  · rintro ⟨index, area, present, ⟨-, least⟩, blamed⟩
    obtain ⟨bound, rfl⟩ := List.getElem?_eq_some_iff.mp present
    refine ⟨areas.take index, areas[index], areas.drop (index + 1), ?_, ?_, blamed⟩
    · rw [← List.drop_eq_getElem_cons bound, List.take_append_drop]
    · by_contra not_placed
      cases index with
      | zero => exact not_placed (wellPlaced_nil grid)
      | succ index =>
          have := least not_placed
          omega

/-- Areas are accepted exactly if they are well placed, on a grid whose bounds can be shown.  Otherwise the
report is on the area with which they stop being so, and on nothing else.  The check breaks off exactly
on a grid with a bound that cannot be shown, whatever the areas are. -/
theorem areas_judged (grid : Grid) (areas : List Area) :
    (areasFault? grid areas = .ok none ↔ grid.Showable ∧ WellPlaced grid areas) ∧
    (∀ report, (areasFault? grid areas).map (Option.map AreaFault.report) = .ok (some report) ↔
      grid.Showable ∧ ∃ index area, areas[index]? = some area ∧
        IsLeast {i | ¬WellPlaced grid (areas.take (i + 1))} index ∧
        Blames grid (areas.take index) area report) ∧
    ∀ defect, areasFault? grid areas = .error defect ↔ ¬grid.Showable := by
  refine ⟨?_, fun report => ?_, fun _ => areasFault?_eq_error_iff⟩
  · rw [areasFault?_eq_ok_iff, areasFaultFrom?_eq_none_iff_wellPlaced]
  · rw [← areasFaultFrom?_report_eq_some_iff_least]
    by_cases showable : grid.Showable
    · simp [areasFault?_of_showable showable, showable, Except.map]
    · simp [areasFault?_of_not_showable showable, showable, Except.map]

/-- In a city without end not even an empty list of areas is accepted, although nothing is wrong with
it. -/
theorem endlessGrid_breaks_off :
    areasFault? endlessGrid [] = .error .longInteger ∧
      ¬∀ grid areas, areasFault? grid areas = .ok none ↔ WellPlaced grid areas := by
  have stopped : areasFault? endlessGrid [] = .error .longInteger :=
    areasFault?_of_not_showable endlessGrid_not_showable
  refine ⟨stopped, fun all_judged => ?_⟩
  cases stopped.symm.trans ((all_judged endlessGrid []).mpr (wellPlaced_nil endlessGrid))

end RobotCity
