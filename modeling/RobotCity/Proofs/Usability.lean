import RobotCity.Configuration.OfJson
import RobotCity.Proofs.Acceptance
import RobotCity.Proofs.Documents.Mirror
import RobotCity.Proofs.Setup.Refusals

/-!
# Usable configurations

Under a configuration that is read every program gets a verdict unless a bound of the city is too long to be
shown, or an array or an object stands among the kinds of items.  Over the bound the check breaks off before
it looks at anything, over such a kind where it opens the books for a robot, that is if the areas and robots
are in order and there is a robot at all.
-/

namespace RobotCity

open Json (member?)

theorem configurationMembers_eq_ok {document : Json} {members : List (Text × Json)}
    (read : configurationMembers document = .ok members) : document = .object members := by
  cases document with
  | object _ =>
      cases read
      rfl
  | _ => cases read

/-- Only the items of an array can be arrays or objects. -/
theorem listed_no_key {document kind : Json} {kinds : List Json}
    (kinds_listed : listed document = .ok kinds) (known : kind ∈ kinds) (no_key : ¬kind.isKey) :
    document = .array kinds := by
  have not_text : ∀ text, kind ≠ .string text := by
    rintro text rfl
    exact no_key rfl
  cases document with
  | array items =>
      cases kinds_listed
      rfl
  | object members =>
      cases kinds_listed
      obtain ⟨entry, -, same⟩ := List.mem_map.mp known
      exact absurd same.symm (not_text _)
  | string text =>
      cases kinds_listed
      obtain ⟨letter, -, same⟩ := List.mem_map.mp known
      exact absurd same.symm (not_text _)
  | _ => cases kinds_listed

/-- A document lists some kinds of items in an array. -/
def ListsKinds (document : Json) (kinds : List Json) : Prop :=
  ∃ members settings, document = .object members ∧
    member? members "validator" = some (.object settings) ∧
    member? settings "item_kinds" = some (.array kinds)

theorem Configuration.listsKinds {document : Json} {configuration : Configuration}
    (read : Configuration.ofJson document = .ok configuration) {kind : Json}
    (known : kind ∈ configuration.settings.itemKinds) (no_key : ¬kind.isKey) :
    ListsKinds document configuration.settings.itemKinds := by
  obtain ⟨members, is_object, read⟩ := bind_eq_ok read
  obtain ⟨grid, -, read⟩ := bind_eq_ok read
  obtain ⟨settings, settings_read, same⟩ := bind_eq_ok read
  cases same
  obtain ⟨given, given_object, settings_read⟩ := bind_eq_ok settings_read
  obtain ⟨kinds, kinds_listed, same⟩ := bind_eq_ok settings_read
  cases same
  have is_array := listed_no_key kinds_listed known no_key
  have given_is := configurationMembers_eq_ok given_object
  -- the standard kinds are texts, so that the kinds and the settings are there
  cases kinds_there : member? given "item_kinds" with
  | none =>
      rw [kinds_there] at is_array
      cases is_array
      rcases List.mem_pair.mp known with rfl | rfl <;> exact absurd rfl no_key
  | some value =>
      rw [kinds_there, Option.getD_some] at is_array
      subst is_array
      cases settings_there : member? members "validator" with
      | none =>
          rw [settings_there] at given_is
          cases given_is
          cases kinds_there
      | some settings =>
          rw [settings_there, Option.getD_some] at given_is
          exact ⟨members, given, configurationMembers_eq_ok is_object, by rw [settings_there, given_is],
            kinds_there⟩

/-- A kind for which the books have no entry is an array or an object, and the document lists it. -/
theorem Configuration.listsKinds_of_unusable {document : Json} {configuration : Configuration}
    (read : Configuration.ofJson document = .ok configuration) {kind : Json}
    (first : Ledger.unusable? configuration.settings.itemKinds = some kind) :
    ((∃ items, kind = .array items) ∨ ∃ members, kind = .object members) ∧
      ListsKinds document configuration.settings.itemKinds := by
  have no_key : ¬kind.isKey := by simpa using List.find?_some first
  refine ⟨?_, Configuration.listsKinds read (List.mem_of_find?_eq_some first) no_key⟩
  cases kind with
  | array items => exact .inl ⟨items, rfl⟩
  | object members => exact .inr ⟨members, rfl⟩
  | _ => exact absurd rfl no_key

namespace Program

/-- A stage in front of the setup finds a fault, whatever the books say. -/
inductive EarlyFault (configuration : Configuration) (program : Program) : Prop
  | areas {fault : AreaFault} :
    areasFault? configuration.grid program.areas = .ok (some fault) → EarlyFault configuration program
  | robots {fault : RobotFault} :
    robotsFault? program.robots program.robotTypes = some fault → EarlyFault configuration program

section Books

variable {configuration : Configuration} {program : Program}

/-- A fault in the areas or robots is reported where the bounds of the city can be shown. -/
theorem exists_verdict_of_early (showable : configuration.grid.Showable)
    (early : EarlyFault configuration program) :
    ∃ found, program.verdict configuration = .ok found := by
  have areas_checked : areasFault? configuration.grid program.areas = _ :=
    areasFault?_of_showable showable
  cases found : areasFaultFrom? configuration.grid configuration.grid.coordinates [] program.areas with
  | some fault =>
      rw [found] at areas_checked
      exact ⟨_, verdict_of_areas_fault areas_checked⟩
  | none =>
      rw [found] at areas_checked
      cases early with
      | areas there => cases areas_checked.symm.trans there
      | robots there => exact ⟨_, verdict_of_robots_fault areas_checked there⟩

/-- Where no stage in front of the setup finds a fault and there is a robot, a kind without an entry in the
books ends the check. -/
theorem verdict_of_unusable (showable : configuration.grid.Showable) (robots_exist : program.robots ≠ [])
    (not_early : ¬EarlyFault configuration program) {kind : Json}
    (first : Ledger.unusable? configuration.settings.itemKinds = some kind) :
    program.verdict configuration = .error (.books (.unusableKind kind.kind)) := by
  have areas : areasFault? configuration.grid program.areas = .ok none := by
    rw [areasFault?_of_showable showable]
    refine congrArg Except.ok (Option.eq_none_iff_forall_ne_some.mpr fun fault found => not_early ?_)
    exact .areas (areasFault?_eq_ok_iff.mpr ⟨showable, found⟩)
  have robots : robotsFault? program.robots program.robotTypes = none :=
    Option.eq_none_iff_forall_ne_some.mpr fun fault found => not_early (.robots found)
  exact verdict_refused areas robots (program.setup.fault?_eq_error robots_exist first)

end Books

/-- A program gets a verdict under a configuration that is read unless a bound of the city is too long to be
shown, or an array or an object stands among the kinds of items, for which the books have no entry.  Over a
long bound the check breaks off in any case; over the first such kind it breaks off if there is a robot and
no fault in the areas or robots.  A configuration has such a kind only where its document lists it.  The
other settings may be anything. -/
theorem verdict_exists_iff_usable {document : Json} {configuration : Configuration}
    (read : Configuration.ofJson document = .ok configuration) (program : Program) :
    ((∃ found, program.verdict configuration = .ok found) ↔
      configuration.grid.Showable ∧
        (Ledger.unusable? configuration.settings.itemKinds = none ∨ program.robots = [] ∨
          EarlyFault configuration program)) ∧
    (∀ error, program.verdict configuration = .error error →
      (¬configuration.grid.Showable ∧ error = .bound .longInteger) ∨
      (configuration.grid.Showable ∧
        ∃ kind, Ledger.unusable? configuration.settings.itemKinds = some kind ∧
          error = .books (.unusableKind kind.kind))) ∧
    ∀ kind, Ledger.unusable? configuration.settings.itemKinds = some kind →
      ((∃ items, kind = .array items) ∨ ∃ members, kind = .object members) ∧
        ListsKinds document configuration.settings.itemKinds := by
  have kinds_listed := fun kind
      (first : Ledger.unusable? configuration.settings.itemKinds = some kind) =>
    Configuration.listsKinds_of_unusable read first
  by_cases showable : configuration.grid.Showable
  case neg =>
    have stopped : program.verdict configuration = .error (.bound .longInteger) :=
      verdict_of_not_showable showable
    refine ⟨iff_of_false (fun ⟨found, checked⟩ => ?_) (fun ⟨shown, _⟩ => showable shown),
      fun error refused => ?_, kinds_listed⟩
    · cases checked.symm.trans stopped
    · cases refused.symm.trans stopped
      exact .inl ⟨showable, rfl⟩
  by_cases usable : Ledger.unusable? configuration.settings.itemKinds = none ∨
      program.robots = [] ∨ EarlyFault configuration program
  · have decided : ∃ found, program.verdict configuration = .ok found := by
      rcases usable with no_nested | no_robot | early
      · exact exists_verdict showable (.inl no_nested)
      · exact exists_verdict showable (.inr no_robot)
      · exact exists_verdict_of_early showable early
    refine ⟨iff_of_true decided ⟨showable, usable⟩, fun error stopped => ?_, kinds_listed⟩
    obtain ⟨found, checked⟩ := decided
    cases checked.symm.trans stopped
  · obtain ⟨nested, no_excuse⟩ := not_or.mp usable
    obtain ⟨robots_exist, not_early⟩ := not_or.mp no_excuse
    obtain ⟨kind, first⟩ := Option.ne_none_iff_exists'.mp nested
    have stopped := verdict_of_unusable showable robots_exist not_early first
    refine ⟨iff_of_false (fun ⟨found, checked⟩ => ?_) (fun ⟨_, excused⟩ => usable excused),
      fun error refused => ?_, kinds_listed⟩
    · cases checked.symm.trans stopped
    · cases refused.symm.trans stopped
      exact .inr ⟨showable, kind, first, rfl⟩

/-- A configuration with a number and null among the kinds of items, and with a list that stands for every
robot. -/
def mixedKinds : Json :=
  .object
    [ ("validator", .object
        [ ("item_kinds", .array [.string "flower", .string "paper", .integer 7, .null])
        , ("broadcast_target", .array []) ]) ]

/-- The patrol gets its verdict all the same. -/
theorem patrol_decided : ∃ configuration, Configuration.ofJson mixedKinds = .ok configuration ∧
    ∃ found, patrol.verdict configuration = .ok found := by
  obtain ⟨configuration, read, usable⟩ : ∃ configuration,
      Configuration.ofJson mixedKinds = .ok configuration ∧
        Ledger.unusable? configuration.settings.itemKinds = none := ⟨_, rfl, rfl⟩
  have showable : configuration.grid.Showable := by
    cases read
    decide
  exact ⟨configuration, read,
    (verdict_exists_iff_usable read patrol).1.mpr ⟨showable, .inl usable⟩⟩

/-- A configuration in which a list stands for a kind of items. -/
def nestedKinds : Json :=
  .object [("validator", .object [("item_kinds", .array [.array [.string "flower"]])])]

/-- A configuration that is read need not give a program a verdict. -/
theorem nested_kinds_break_off :
    ¬∀ document configuration programDocument program,
      Configuration.ofJson document = .ok configuration →
      Program.ofJson programDocument = .ok program →
      ∃ found, program.verdict configuration = .ok found := by
  intro all_found
  have program_read : Program.ofJson patrol.toJson = .ok patrol :=
    Program.ofJson_toDocument (.inr rfl) false
  obtain ⟨found, checked⟩ := all_found nestedKinds _ _ _ rfl program_read
  cases checked

end Program
end RobotCity
