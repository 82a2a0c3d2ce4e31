import RobotCity.Proofs.Areas
import RobotCity.Proofs.Setup.Acceptance
import RobotCity.Proofs.Stages

/-!
# The city at the start

In an accepted program every robot starts at one corner of the city, alone, in the only area around
this corner, which it holds.  So no more robots start in an area than may hold it.
-/

namespace RobotCity
namespace Program

/-- A robot starts in an area. -/
def StartsIn (program : Program) (robot : Robot) (area : Area) : Prop :=
  ∃ origin ∈ program.setup.origins, origin.robot = robot.name ∧
    area.extent.contains origin.point

instance (program : Program) (robot : Robot) (area : Area) :
    Decidable (program.StartsIn robot area) :=
  inferInstanceAs (Decidable (∃ origin ∈ program.setup.origins, origin.robot = robot.name ∧
    area.extent.contains origin.point))

/-- The areas, robots and setup of a program are in order. -/
structure Arranged (grid : Grid) (kinds : List Text) (program : Program) : Prop where
  areas_lie : ∀ area ∈ program.areas, area.Lies grid
  areas_apart : program.areas.Pairwise Area.Apart
  robots_nodup : (program.robots.map (·.name)).Nodup
  granted : (Roster.ofDeclared program.robots program.areas kinds).GrantsAllowed
    program.setup.grants
  placed : (Roster.ofDeclared program.robots program.areas kinds).OriginsAllowed
    program.setup.grants program.setup.origins

theorem arranged_of_accepted {configuration : Configuration} {program : Program}
    {kinds : List Text} (kinds_given : configuration.settings.itemKinds = kinds.map .string)
    (accepted : program.verdict configuration = .ok none) :
    program.Arranged configuration.grid kinds := by
  have faultless := verdict_eq_none_iff.mp accepted
  obtain ⟨-, areas_lie, areas_apart⟩ := areasFault?_eq_none_iff.mp faultless.areas
  have robots_nodup := (robotsFault?_eq_none_iff.mp faultless.robots).1
  have distinct : (Roster.ofDeclared program.robots program.areas kinds).Distinct :=
    ⟨areas_nodup_of_apart areas_apart, robots_nodup⟩
  have setup_faultless := faultless.setup
  rw [kinds_given] at setup_faultless
  have meets := Setup.meets_of_faultless distinct setup_faultless
  exact ⟨areas_lie, areas_apart, robots_nodup, meets .areas, meets .origins⟩

namespace Arranged

variable {grid : Grid} {kinds : List Text} {program : Program}

theorem start_unique (arranged : program.Arranged grid kinds) {robot : Robot}
    (member : robot ∈ program.robots) :
    ∃ origin, program.setup.origins.filter (·.robot = robot.name) = [origin] := by
  have once := arranged.placed.placed_once robot.name (List.mem_map_of_mem member)
  rw [List.count_eq_countP, List.countP_map, List.countP_eq_length_filter] at once
  obtain ⟨origin, only⟩ := List.length_eq_one_iff.mp once
  refine ⟨origin, ?_⟩
  rw [← only]
  exact List.filter_congr fun other _ => by simp [beq_eq_decide]

/-- A robot starts in an area that it holds, the only one around its corner. -/
theorem start_covered (arranged : program.Arranged grid kinds) {origin : Origin}
    (member : origin ∈ program.setup.origins) :
    ∃ area ∈ program.areas, { robot := origin.robot, area := area.name } ∈ program.setup.grants ∧
      area.extent.contains origin.point ∧
      program.areas.filter (·.extent.contains origin.point) = [area] := by
  obtain ⟨area, area_member, held, inside⟩ := arranged.placed.covered origin member
  exact ⟨area, area_member, held, inside,
    filter_contains_of_apart arranged.areas_apart area_member inside⟩

theorem start_in_city (arranged : program.Arranged grid kinds) {origin : Origin}
    (member : origin ∈ program.setup.origins) : grid.extent.contains origin.point := by
  obtain ⟨area, area_member, -, inside, -⟩ := arranged.start_covered member
  have lies := arranged.areas_lie area area_member
  exact Rectangle.contains_of_corners lies.low_inside lies.high_inside inside

theorem holds_of_startsIn (arranged : program.Arranged grid kinds) {robot : Robot} {area : Area}
    (area_member : area ∈ program.areas) (starts : program.StartsIn robot area) :
    { robot := robot.name, area := area.name } ∈ program.setup.grants := by
  obtain ⟨origin, member, robot_name, inside⟩ := starts
  obtain ⟨around, -, held, -, only⟩ := arranged.start_covered member
  have only_area := filter_contains_of_apart arranged.areas_apart area_member inside
  obtain rfl : around = area := by simpa [only] using only_area
  rwa [robot_name] at held

/-- As many robots at most start in an area as hold it. -/
theorem starters_le_holders (arranged : program.Arranged grid kinds) {area : Area}
    (area_member : area ∈ program.areas) :
    program.robots.countP (program.StartsIn · area) ≤
      holderCount program.setup.grants area.name := by
  -- Starters are counted by their names, which are distinct, against the grants of the area.
  let starters := program.robots.filter (program.StartsIn · area)
  let holders := program.setup.grants.filter (·.area = area.name)
  have starters_nodup : (starters.map (·.name)).Nodup :=
    arranged.robots_nodup.sublist (List.filter_sublist.map _)
  have starters_hold : starters.map (·.name) ⊆ holders.map (·.robot) := by
    intro name starter
    obtain ⟨robot, robot_starter, rfl⟩ := List.mem_map.mp starter
    have starts : program.StartsIn robot area := by
      simpa using (List.mem_filter.mp robot_starter).2
    have held := arranged.holds_of_startsIn area_member starts
    exact List.mem_map.mpr ⟨_, List.mem_filter.mpr ⟨held, by simp⟩, rfl⟩
  have fewer := (List.subperm_of_subset starters_nodup starters_hold).length_le
  rw [List.length_map, List.length_map] at fewer
  rwa [holderCount, List.countP_eq_length_filter, List.countP_eq_length_filter]

theorem starts_differ (arranged : program.Arranged grid kinds) :
    program.robots.Pairwise fun robot other =>
      ∀ point, { robot := robot.name, point } ∈ program.setup.origins →
        { robot := other.name, point } ∉ program.setup.origins := by
  have names_differ := List.pairwise_map.mp arranged.robots_nodup
  refine names_differ.imp fun differ point first second => differ ?_
  have same := List.inj_on_of_nodup_map arranged.placed.points_nodup first second rfl
  exact congrArg Origin.robot same

end Arranged

/-- Every robot of an accepted program starts at exactly one corner, which lies in the city and in
exactly one area, held by this robot.  No two robots start at the same corner, and in no area start
more robots than may hold it. -/
theorem starts_safely {configuration : Configuration} {program : Program} {kinds : List Text}
    (kinds_given : configuration.settings.itemKinds = kinds.map .string)
    (accepted : program.verdict configuration = .ok none) :
    (∀ robot ∈ program.robots, ∃ origin area,
      program.setup.origins.filter (·.robot = robot.name) = [origin] ∧
      configuration.grid.extent.contains origin.point ∧
      program.areas.filter (·.extent.contains origin.point) = [area] ∧
      { robot := robot.name, area := area.name } ∈ program.setup.grants) ∧
    (program.robots.Pairwise fun robot other =>
      ∀ point, { robot := robot.name, point } ∈ program.setup.origins →
        { robot := other.name, point } ∉ program.setup.origins) ∧
    ∀ area ∈ program.areas,
      program.robots.countP (program.StartsIn · area) ≤
        area.occupancy.capacity program.robots.length := by
  have arranged := arranged_of_accepted kinds_given accepted
  refine ⟨fun robot robot_member => ?_, arranged.starts_differ, fun area area_member => ?_⟩
  · obtain ⟨origin, only_origin⟩ := arranged.start_unique robot_member
    have found : origin ∈ program.setup.origins.filter (·.robot = robot.name) := by
      rw [only_origin]
      exact List.mem_singleton_self origin
    obtain ⟨origin_member, robot_name⟩ := List.mem_filter.mp found
    obtain ⟨area, -, held, -, only_area⟩ := arranged.start_covered origin_member
    rw [of_decide_eq_true robot_name] at held
    exact ⟨origin, area, only_origin, arranged.start_in_city origin_member, only_area, held⟩
  · have starters := arranged.starters_le_holders area_member
    have holders := arranged.granted.limited area area_member
    calc (program.robots.countP (program.StartsIn · area) : Int)
        ≤ holderCount program.setup.grants area.name := by exact_mod_cast starters
      _ ≤ area.occupancy.capacity program.robots.length := holders

theorem patrol_starts_safely :
    Configuration.standard.settings.itemKinds = (["flower", "paper"] : List Text).map .string ∧
      patrol.verdict .standard = .ok none ∧
      (∀ robot ∈ patrol.robots, ∃ origin area,
        patrol.setup.origins.filter (·.robot = robot.name) = [origin] ∧
        Grid.standard.extent.contains origin.point ∧
        patrol.areas.filter (·.extent.contains origin.point) = [area] ∧
        { robot := robot.name, area := area.name } ∈ patrol.setup.grants) ∧
      ∀ area ∈ patrol.areas,
        patrol.robots.countP (patrol.StartsIn · area) ≤
          area.occupancy.capacity patrol.robots.length := by
  have kinds_given : Configuration.standard.settings.itemKinds =
      (["flower", "paper"] : List Text).map .string := rfl
  have accepted : patrol.verdict .standard = .ok none := rfl
  obtain ⟨starts, -, limited⟩ := starts_safely kinds_given accepted
  exact ⟨kinds_given, accepted, starts, limited⟩

end Program
end RobotCity
