import RobotCity.Proofs.Acceptance
import RobotCity.Proofs.Setup.Kinds
import RobotCity.Proofs.Setup.Refusals

/-!
# Configurations that leave more room

A program that is accepted under a configuration is never rejected under one that leaves more room: a
larger city, more kinds of items, and hidden parameters allowed.  All that can happen to it is that its
check breaks off, over a bound that is too long to be shown or a kind for which the books have no entry.
-/

namespace RobotCity

/-- A grid that reaches at least as far on every side. -/
structure Grid.Widens (grid wider : Grid) : Prop where
  low_lower : wider.low ≤ grid.low
  high_higher : grid.high ≤ wider.high

theorem Grid.Widens.contains {grid wider : Grid} (widens : grid.Widens wider) {point : Point}
    (inside : grid.extent.contains point) : wider.extent.contains point := by
  obtain ⟨low_lower, high_higher⟩ := widens
  rw [Rectangle.contains_iff] at inside ⊢
  dsimp only [Grid.extent] at inside ⊢
  omega

theorem Area.Lies.of_widens {grid wider : Grid} {area : Area} (lies : area.Lies grid)
    (widens : grid.Widens wider) : area.Lies wider :=
  ⟨widens.contains lies.low_inside, widens.contains lies.high_inside, lies.ordered⟩

/-- Areas that are accepted in a city are accepted in a larger one whose bounds can be shown. -/
theorem areasFault?_of_widens {grid wider : Grid} (widens : grid.Widens wider)
    (showable : wider.Showable) {areas : List Area} (faultless : areasFault? grid areas = .ok none) :
    areasFault? wider areas = .ok none := by
  obtain ⟨-, all_lie, apart⟩ := areasFault?_eq_none_iff.mp faultless
  exact areasFault?_eq_none_iff.mpr
    ⟨showable, fun area member => (all_lie area member).of_widens widens, apart⟩

/-- Procedures that are accepted by a strict check are accepted by one that is not strict. -/
theorem proceduresFault?_of_less_strict {procedures : List Procedure} {robots : List Text}
    {everyone : Option Text} {strict looser : Bool} (less_strict : looser → strict)
    (faultless : proceduresFault? procedures robots everyone strict = none) :
    proceduresFault? procedures robots everyone looser = none := by
  obtain ⟨names_nodup, all_acceptable⟩ := proceduresFault?_eq_none_iff.mp faultless
  refine proceduresFault?_eq_none_iff.mpr ⟨names_nodup, fun procedure member => ?_⟩
  have acceptable := all_acceptable procedure member
  exact { acceptable with
    none_hidden := fun is_strict => acceptable.none_hidden (less_strict is_strict) }

/-- A configuration leaves more room than another one. -/
structure Configuration.Loosens (configuration looser : Configuration) : Prop where
  low_lower : looser.grid.low ≤ configuration.grid.low
  high_higher : configuration.grid.high ≤ looser.grid.high
  kinds_kept : ∀ kind ∈ configuration.settings.itemKinds, kind ∈ looser.settings.itemKinds
  everyone_same : looser.settings.everyone = configuration.settings.everyone
  strict_same_or_off : looser.settings.strict = configuration.settings.strict ∨
    looser.settings.isStrict = false

namespace Program

variable {configuration looser : Configuration} {program : Program}

/-- What becomes of an accepted program under another configuration: it is accepted, or its check breaks
off over a bound of the city or over a kind of items. -/
inductive Withstands (program : Program) (looser : Configuration) : Prop
  | accepted : looser.grid.Showable →
    (∀ kind ∈ looser.settings.itemKinds, kind.isKey) ∨ program.robots = [] →
    program.verdict looser = .ok none → Withstands program looser
  | longBound : ¬looser.grid.Showable →
    program.verdict looser = .error (.bound .longInteger) → Withstands program looser
  | unusableKind {kind : Json} : program.robots ≠ [] → kind ∈ looser.settings.itemKinds →
    ¬kind.isKey → program.verdict looser = .error (.books (.unusableKind kind.kind)) →
    Withstands program looser

/-- Under a looser configuration an accepted program stays accepted unless its check breaks off. -/
theorem withstands_of_loosens (loosens : configuration.Loosens looser)
    (accepted : program.verdict configuration = .ok none) : program.Withstands looser := by
  have faultless := verdict_eq_none_iff.mp accepted
  by_cases showable : looser.grid.Showable
  case neg => exact .longBound showable (verdict_of_not_showable showable)
  have areas := areasFault?_of_widens ⟨loosens.low_lower, loosens.high_higher⟩ showable
    faultless.areas
  have everyone_same : looser.settings.everyone? = configuration.settings.everyone? := by
    rw [Settings.everyone?, Settings.everyone?, loosens.everyone_same]
  have less_strict : looser.settings.isStrict → configuration.settings.isStrict := by
    intro is_strict
    rcases loosens.strict_same_or_off with same | off
    · rwa [Settings.isStrict, ← same]
    · rw [off] at is_strict
      cases is_strict
  by_cases usable : Ledger.unusable? looser.settings.itemKinds = none ∨ program.robots = []
  · obtain ⟨found, checked⟩ := program.setup.exists_fault? program.areas usable
    have setup := (Setup.faultless_of_more_kinds loosens.kinds_kept faultless.setup).resolve_right
      (by
        rintro ⟨_, _, _, stopped⟩
        cases stopped.symm.trans checked)
    have keys := usable.imp_left fun none_unusable kind known => by
      simpa using List.find?_eq_none.mp none_unusable kind known
    refine .accepted showable keys (verdict_eq_none_iff.mpr ⟨areas, faultless.robots, setup, ?_, ?_⟩)
    · rw [everyone_same]
      exact proceduresFault?_of_less_strict less_strict faultless.procedures
    · rw [everyone_same]
      exact faultless.robotTypes
  · obtain ⟨some_unusable, robots_exist⟩ := not_or.mp usable
    obtain ⟨kind, first⟩ := Option.ne_none_iff_exists'.mp some_unusable
    have no_key : ¬kind.isKey := by simpa using List.find?_some first
    exact .unusableKind robots_exist (List.mem_of_find?_eq_some first) no_key
      (verdict_refused areas faultless.robots (program.setup.fault?_eq_error robots_exist first))

/-- An accepted program is not rejected under a looser configuration.  It is accepted exactly if the bounds
of the larger city can be shown and every kind of items can have an entry in the books, as every text
can, or there is no robot to have one; otherwise its check breaks off over the one or the other. -/
theorem loosening_keeps_accepted (loosens : configuration.Loosens looser)
    (accepted : program.verdict configuration = .ok none) :
    (program.verdict looser = .ok none ↔ looser.grid.Showable ∧
      ((∀ kind ∈ looser.settings.itemKinds, kind.isKey) ∨ program.robots = [])) ∧
    (∀ report, program.verdict looser ≠ .ok (some report)) ∧
    ∀ error, program.verdict looser = .error error →
      (¬looser.grid.Showable ∧ error = .bound .longInteger) ∨
        ∃ kind ∈ looser.settings.itemKinds, ¬kind.isKey ∧
          error = .books (.unusableKind kind.kind) := by
  cases withstands_of_loosens loosens accepted with
  | accepted showable keys accepted' =>
      rw [accepted']
      exact ⟨iff_of_true rfl ⟨showable, keys⟩, nofun, nofun⟩
  | longBound long stopped =>
      rw [stopped]
      refine ⟨iff_of_false nofun fun ⟨showable, _⟩ => long showable, nofun, ?_⟩
      rintro _ ⟨⟩
      exact .inl ⟨long, rfl⟩
  | @unusableKind kind robots_exist known no_key stopped =>
      rw [stopped]
      refine ⟨iff_of_false nofun fun ⟨_, keys⟩ => ?_, nofun, ?_⟩
      · exact keys.elim (fun all_keys => no_key (all_keys kind known)) robots_exist
      · rintro _ ⟨⟩
        exact .inr ⟨kind, known, no_key, rfl⟩

end Program

/-- A strict configuration. -/
def strictConfiguration : Configuration :=
  { grid := .standard, settings := { Settings.standard with strict := .boolean true } }

/-- A looser configuration: a larger city, one more kind of items, the kinds in another order with a
repetition, and hidden parameters allowed. -/
def looseConfiguration : Configuration :=
  { grid := ⟨-4, 120⟩
    settings := { Settings.standard with
      itemKinds := [.string "stone", .string "paper", .string "flower", .string "paper"] } }

theorem patrol_keeps_accepted :
    strictConfiguration.Loosens looseConfiguration ∧
      patrol.verdict strictConfiguration = .ok none ∧
      patrol.verdict looseConfiguration = .ok none := by
  have loosens : strictConfiguration.Loosens looseConfiguration :=
    { low_lower := by decide
      high_higher := by decide
      kinds_kept := by decide
      everyone_same := rfl
      strict_same_or_off := .inr rfl }
  have accepted : patrol.verdict strictConfiguration = .ok none := rfl
  obtain ⟨kept_iff, -⟩ := Program.loosening_keeps_accepted loosens accepted
  exact ⟨loosens, accepted, kept_iff.mpr ⟨by decide, .inl (by decide)⟩⟩

/-- A configuration with a list among the kinds of items. -/
def listedKind : Configuration :=
  { Configuration.standard with
    settings := { Settings.standard with
      itemKinds := [.string "flower", .string "paper", .array [.string "x"]] } }

/-- A configuration with a city without end. -/
def endlessCity : Configuration :=
  { Configuration.standard with grid := endlessGrid }

/-- An accepted program need not stay accepted: a list among the kinds of items makes its check break off,
and so does a bound that is too long to be shown. -/
theorem patrol_breaks_off :
    patrol.verdict listedKind = .error (.books (.unusableKind .array)) ∧
      patrol.verdict endlessCity = .error (.bound .longInteger) ∧
      ¬∀ (configuration looser : Configuration) (kinds : List Text) (program : Program),
        configuration.settings.itemKinds = kinds.map .string → configuration.Loosens looser →
        program.verdict configuration = .ok none → program.verdict looser = .ok none := by
  have accepted : patrol.verdict .standard = .ok none := rfl
  have stopped : patrol.verdict listedKind = .error (.books (.unusableKind .array)) := rfl
  have loosens : Configuration.standard.Loosens listedKind :=
    { low_lower := by decide
      high_higher := by decide
      kinds_kept := by decide
      everyone_same := rfl
      strict_same_or_off := .inl rfl }
  refine ⟨stopped, Program.verdict_of_not_showable endlessGrid_not_showable, fun all_kept => ?_⟩
  cases stopped.symm.trans (all_kept _ _ ["flower", "paper"] _ rfl loosens accepted)

end RobotCity
