import Mathlib.Logic.Equiv.Basic
import RobotCity.Proofs.Acceptance
import RobotCity.Proofs.Renaming.Setup

/-!
# Renamed programs

A program is checked the same way under new names, stage by stage.  Names therefore mean nothing
beyond being the same or not, and the five kinds of names do not get in each other's way.
-/

namespace RobotCity

variable (names : Renaming)

namespace Area

theorem outsideFault?_rename (grid : Grid) (bounds : String) (area : Area) :
    (area.rename names).outsideFault? grid bounds =
      (area.outsideFault? grid bounds).map (AreaFault.rename names) := by
  simp only [outsideFault?, rename]
  cases grid.extent.contains area.extent.low <;> cases grid.extent.contains area.extent.high <;> rfl

theorem orderFault?_rename (area : Area) :
    (area.rename names).orderFault? = area.orderFault?.map (AreaFault.rename names) := by
  by_cases ordered : area.extent.isOrdered <;>
    simp [orderFault?, rename, ordered, AreaFault.rename]

theorem clashFault?_rename (position : Nat) (area : Area) (earlier : Area × Nat) :
    (area.rename names).clashFault? position (earlier.1.rename names, earlier.2) =
      (area.clashFault? position earlier).map (AreaFault.rename names) := by
  by_cases same : earlier.1.name = area.name
  · simp [clashFault?, rename, same, AreaFault.rename]
  · by_cases overlap : earlier.1.extent.overlaps area.extent <;>
      simp [clashFault?, rename, same, names.area_injective.eq_iff, overlap, AreaFault.rename]

theorem fault?_rename (grid : Grid) (bounds : String) (before : List Area) (area : Area) :
    (area.rename names).fault? grid bounds (before.map (Area.rename names)) =
      (area.fault? grid bounds before).map (AreaFault.rename names) := by
  have clashes_renamed :
      (before.map (Area.rename names)).zipIdx.findSome?
          ((area.rename names).clashFault? (before.map (Area.rename names)).length) =
        (before.zipIdx.findSome? (area.clashFault? before.length)).map
          (AreaFault.rename names) := by
    rw [List.zipIdx_map, List.findSome?_map, List.map_findSome?, List.length_map]
    exact congrArg (List.findSome? · before.zipIdx)
      (funext (area.clashFault?_rename names before.length))
  rw [fault?, fault?, outsideFault?_rename, orderFault?_rename, clashes_renamed, Option.map_or,
    Option.map_or]

end Area

theorem areasFaultFrom?_rename (grid : Grid) (bounds : String) (before areas : List Area) :
    areasFaultFrom? grid bounds (before.map (Area.rename names)) (areas.map (Area.rename names)) =
      (areasFaultFrom? grid bounds before areas).map (AreaFault.rename names) := by
  induction areas generalizing before with
  | nil => rfl
  | cons area rest ih =>
      have later := ih (before ++ [area])
      rw [List.map_append, List.map_singleton] at later
      rw [List.map_cons, areasFaultFrom?, areasFaultFrom?, area.fault?_rename, later,
        Option.map_or]

theorem areasFault?_rename (grid : Grid) (areas : List Area) :
    areasFault? grid (areas.map (Area.rename names)) =
      (areasFault? grid areas).map (Option.map (AreaFault.rename names)) := by
  by_cases showable : grid.Showable
  · rw [areasFault?_of_showable showable, areasFault?_of_showable showable]
    exact congrArg Except.ok (areasFaultFrom?_rename names grid grid.coordinates [] areas)
  · rw [areasFault?_of_not_showable showable, areasFault?_of_not_showable showable]
    rfl

theorem Robot.typeFault?_rename (types : List Text) (robot : Robot × Nat) :
    Robot.typeFault? (types.map names.ofRobotType) (robot.1.rename names, robot.2) =
      (Robot.typeFault? types robot).map (RobotFault.rename names) := by
  have declared_iff : names.ofRobotType robot.1.type ∈ types.map names.ofRobotType ↔
      robot.1.type ∈ types :=
    List.mem_map_of_injective names.robotType_injective
  rw [typeFault?, typeFault?, rename]
  by_cases declared : robot.1.type ∈ types
  · rw [if_pos declared, if_pos (declared_iff.mpr declared), Option.map_none]
  · rw [if_neg declared, if_neg (mt declared_iff.mp declared), Option.map_some, RobotFault.rename]

theorem robotsFault?_rename (robots : List Robot) (robotTypes : List RobotType) :
    robotsFault? (robots.map (Robot.rename names)) (robotTypes.map (RobotType.rename names)) =
      (robotsFault? robots robotTypes).map (RobotFault.rename names) := by
  have types_renamed : (robotTypes.map (RobotType.rename names)).map (·.name) =
      (robotTypes.map (·.name)).map names.ofRobotType := by
    simp [RobotType.rename]
  rw [robotsFault?, robotsFault?, types_renamed,
    repetition?_rename names.robot_injective (Robot.rename names) Robot.name (fun _ => rfl)]
  cases repetition? (robots.map (·.name)) with
  | some repetition => rfl
  | none =>
      simp only [Option.map_none]
      rw [List.zipIdx_map, List.findSome?_map, List.map_findSome?]
      exact congrArg (List.findSome? · (robots.zipIdx 1))
        (funext (Robot.typeFault?_rename names (robotTypes.map RobotType.name)))

namespace Program

variable (configuration : Configuration) (program : Program)

theorem robotNames_rename :
    (program.rename names).robotNames = program.robotNames.map names.ofRobot := by
  simp [robotNames, rename, Robot.rename]

theorem everyone?_rename :
    (configuration.rename names).settings.everyone? =
      configuration.settings.everyone?.map names.ofRobot := by
  obtain ⟨grid, kinds, everyone, strict⟩ := configuration
  cases everyone <;> rfl

/-- A stage finds in a renamed program the renamed fault that it finds in the program. -/
theorem stageFault?_rename (stage : Stage) :
    (program.rename names).stageFault? (configuration.rename names) stage =
      relabel (CheckError.rename names) (Option.map (ProgramFault.rename names))
        (program.stageFault? configuration stage) := by
  cases stage with
  | areas =>
      simp only [stageFault?, rename, Configuration.rename, areasFault?_rename]
      rcases areasFault? configuration.grid program.areas with defect | _ | fault <;> rfl
  | robots =>
      simp only [stageFault?, rename, robotsFault?_rename, relabel, Option.map_map]
      rfl
  | setup =>
      simp only [stageFault?, rename, Configuration.rename, Settings.rename, Setup.fault?_rename]
      rcases program.setup.fault? program.robots program.areas configuration.settings.itemKinds with
        error | _ | fault <;> rfl
  | procedures =>
      rw [stageFault?, stageFault?, robotNames_rename, everyone?_rename]
      simp only [rename, Configuration.rename, Settings.rename, Settings.isStrict,
        proceduresFault?_rename, relabel, Option.map_map]
      rfl
  | robotTypes =>
      rw [stageFault?, stageFault?, robotNames_rename, everyone?_rename]
      simp only [rename, robotTypesFault?_rename, relabel, Option.map_map]
      rfl

theorem faultAmong?_rename (stages : List Stage) :
    (program.rename names).faultAmong? (configuration.rename names) stages =
      relabel (CheckError.rename names) (Option.map (ProgramFault.rename names))
        (program.faultAmong? configuration stages) := by
  induction stages with
  | nil => rfl
  | cons stage rest ih =>
      rw [faultAmong?, faultAmong?, stageFault?_rename]
      refine relabel_bind _ fun found => ?_
      cases found with
      | none => exact ih
      | some fault => rfl

/-- What is found in a renamed program is what is found in the program, renamed. -/
theorem fault?_rename :
    (program.rename names).fault? (configuration.rename names) =
      relabel (CheckError.rename names) (Option.map (ProgramFault.rename names))
        (program.fault? configuration) :=
  faultAmong?_rename names configuration program Stage.all

/-- A program gets a verdict of the same kind under new names: it is accepted under both, or reported
under the same category with the same one to blame, the program or the document.  Where a bound of the
city cannot be shown, the check breaks off under both. -/
theorem verdict_alike_of_rename {configuration : Configuration} {kinds : List Text}
    (kinds_given : configuration.settings.itemKinds = kinds.map .string) (program : Program)
    (names : Renaming) :
    (∃ before after, program.verdict configuration = .ok before ∧
      (program.rename names).verdict (configuration.rename names) = .ok after ∧
      Option.Rel Report.Alike after before) ∨
    (¬configuration.grid.Showable ∧
      program.verdict configuration = .error (.bound .longInteger) ∧
      (program.rename names).verdict (configuration.rename names) =
        .error (.bound .longInteger)) := by
  by_cases showable : configuration.grid.Showable
  case neg =>
    have renamed_long : ¬(configuration.rename names).grid.Showable := showable
    exact .inr ⟨showable, verdict_of_not_showable showable, verdict_of_not_showable renamed_long⟩
  refine .inl ?_
  have renamed := fault?_rename names configuration program
  obtain ⟨before, checked⟩ := @verdict_total configuration kinds program showable kinds_given
  rw [verdict] at checked ⊢
  cases found : program.fault? configuration with
  | error reason =>
      rw [found] at checked
      cases checked
  | ok fault =>
      rw [found] at renamed
      refine ⟨_, _, rfl, by rw [verdict, renamed]; rfl, ?_⟩
      cases fault with
      | none => exact .none
      | some fault => exact .some (fault.report_rename names)

/-- New names for which the first robot of a patrol, its area, its type, the procedure that it calls
and the variable in which it counts are all called the same. -/
def homonyms : Renaming :=
  { ofArea := Equiv.swap ("north" : Text) ("r1" : Text)
    ofRobot := id
    ofRobotType := Equiv.swap ("sentry" : Text) ("r1" : Text)
    ofProcedure := Equiv.swap ("advance" : Text) ("r1" : Text)
    ofVariable := Equiv.swap ("count" : Text) ("r1" : Text)
    area_injective := (Equiv.swap _ _).injective
    robot_injective := Function.injective_id
    robotType_injective := (Equiv.swap _ _).injective
    procedure_injective := (Equiv.swap _ _).injective
    variable_injective := (Equiv.swap _ _).injective }

theorem patrol_accepted_of_homonyms :
    Configuration.standard.settings.itemKinds = (["flower", "paper"] : List Text).map .string ∧
      (patrol.rename homonyms).verdict (Configuration.standard.rename homonyms) = .ok none := by
  have kinds_given : Configuration.standard.settings.itemKinds =
      (["flower", "paper"] : List Text).map .string := rfl
  have accepted : patrol.verdict .standard = .ok none := rfl
  obtain ⟨before, after, checked, renamed, alike⟩ | ⟨long, -⟩ :=
    verdict_alike_of_rename kinds_given patrol homonyms
  case inr => exact absurd (by decide) long
  obtain rfl : none = before := Except.ok.inj (accepted.symm.trans checked)
  cases alike
  exact ⟨kinds_given, renamed⟩

end Program
end RobotCity
