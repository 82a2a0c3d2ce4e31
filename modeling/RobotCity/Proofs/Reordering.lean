import Mathlib.Data.List.Perm.Basic
import RobotCity.Proofs.Acceptance

/-!
# The order of declarations

Declarations, records and statements may stand in any order: a program that is put into another order
is accepted exactly if it was accepted before.  Only which fault is reported may depend on the order.
-/

namespace RobotCity

/-- Two lists hold items that are alike, in any order. -/
def Shuffled {α : Type} (alike : α → α → Prop) (items others : List α) : Prop :=
  ∃ pairs : List (α × α), pairs.map (·.1) = items ∧ (pairs.map (·.2)).Perm others ∧
    ∀ pair ∈ pairs, alike pair.1 pair.2

namespace Shuffled

variable {α β : Type} {alike : α → α → Prop} {items others : List α}

/-- What is asked of alike items alike is asked of shuffled lists alike. -/
theorem forall_mem_iff (shuffled : Shuffled alike items others) {condition changed : α → Prop}
    (same : ∀ item other, alike item other → (condition item ↔ changed other)) :
    (∀ item ∈ items, condition item) ↔ ∀ other ∈ others, changed other := by
  obtain ⟨pairs, rfl, perm, pairs_alike⟩ := shuffled
  simp only [← perm.mem_iff, List.forall_mem_map]
  exact forall₂_congr fun pair member => same _ _ (pairs_alike pair member)

/-- What alike items have in common, shuffled lists list in some order. -/
theorem map_perm (shuffled : Shuffled alike items others) {value : α → β}
    (same : ∀ item other, alike item other → value item = value other) :
    (items.map value).Perm (others.map value) := by
  obtain ⟨pairs, rfl, perm, pairs_alike⟩ := shuffled
  have first_same : (pairs.map (·.1)).map value = (pairs.map (·.2)).map value := by
    simp only [List.map_map]
    exact List.map_congr_left fun pair member => same _ _ (pairs_alike pair member)
  rw [first_same]
  exact perm.map value

theorem flatMap_perm (shuffled : Shuffled alike items others) {values : α → List β}
    (same : ∀ item other, alike item other → (values item).Perm (values other)) :
    (items.flatMap values).Perm (others.flatMap values) := by
  obtain ⟨pairs, rfl, perm, pairs_alike⟩ := shuffled
  refine List.Perm.trans ?_ (perm.flatMap_right values)
  simp only [List.flatMap_map]
  exact List.Perm.flatMap_left _ fun pair member => same _ _ (pairs_alike pair member)

end Shuffled

/-- Entries with names of their own may be looked up in any order. -/
theorem NameTable.lookup_eq_of_perm {α : Type} {entries others : List (Text × α)}
    (perm : entries.Perm others) (names_nodup : (entries.map (·.1)).Nodup) (name : Text) :
    entries.lookup name = others.lookup name := by
  have others_nodup : (others.map (·.1)).Nodup := (perm.map _).nodup_iff.mp names_nodup
  ext value
  rw [lookup_eq_some_iff_mem names_nodup, lookup_eq_some_iff_mem others_nodup, perm.mem_iff]

namespace Statement

/-- A statement comes from another one by putting the statements of its blocks, at any depth, into
another order. -/
inductive Reordered : Statement → Statement → Prop
  | refl (statement : Statement) : Reordered statement statement
  | block {pairs : List (Statement × Statement)} {body : List Statement} :
    (∀ pair ∈ pairs, Reordered pair.1 pair.2) → (pairs.map (·.2)).Perm body →
    Reordered (.block (pairs.map (·.1))) (.block body)
  | ifThen {condition : Expression} {body body' : Statement} :
    Reordered body body' → Reordered (.ifThen condition body) (.ifThen condition body')
  | ifElse {condition : Expression} {body body' otherwise otherwise' : Statement} :
    Reordered body body' → Reordered otherwise otherwise' →
    Reordered (.ifElse condition body otherwise) (.ifElse condition body' otherwise')
  | times {count : Expression} {body body' : Statement} :
    Reordered body body' → Reordered (.times count body) (.times count body')
  | loop {condition : Expression} {body body' : Statement} :
    Reordered body body' → Reordered (.loop condition body) (.loop condition body')

/-- The order of the statements of a block does not matter. -/
theorem Reordered.accepted_iff {around : Surroundings} {statement changed : Statement}
    (reordered : statement.Reordered changed) :
    statement.Accepted around ↔ changed.Accepted around := by
  induction reordered with
  | refl => rfl
  | block _ perm all_accepted_iff =>
      rw [accepted_block_iff, accepted_block_iff]
      have shuffled : Shuffled (fun first second : Statement =>
          first.Accepted around ↔ second.Accepted around) _ _ := ⟨_, rfl, perm, all_accepted_iff⟩
      exact shuffled.forall_mem_iff fun _ _ same => same
  | ifThen _ body_iff => rw [accepted_ifThen_iff, accepted_ifThen_iff, body_iff]
  | ifElse _ _ body_iff otherwise_iff =>
      rw [accepted_ifElse_iff, accepted_ifElse_iff, body_iff, otherwise_iff]
  | times _ body_iff => rw [accepted_times_iff, accepted_times_iff, body_iff]
  | loop _ body_iff => rw [accepted_loop_iff, accepted_loop_iff, body_iff]

end Statement

/-- A procedure with its local variables and its statements in another order. -/
structure Procedure.Reordered (procedure changed : Procedure) : Prop where
  name : procedure.name = changed.name
  parameters : procedure.parameters = changed.parameters
  locals : procedure.locals.Perm changed.locals
  body : Shuffled Statement.Reordered procedure.body changed.body

/-- A robot type with its local variables and its statements in another order. -/
structure RobotType.Reordered (robotType changed : RobotType) : Prop where
  name : robotType.name = changed.name
  locals : robotType.locals.Perm changed.locals
  body : Shuffled Statement.Reordered robotType.body changed.body

section Declarations

variable {procedures procedures' : List Procedure} {robots robots' : List Text}
  {everyone : Option Text} {strict : Bool}

theorem find?_declaredProcedures_of_shuffled
    (shuffled : Shuffled Procedure.Reordered procedures procedures')
    (names_nodup : (procedures.map (·.name)).Nodup) (name : Text) :
    (declaredProcedures procedures).find? name = (declaredProcedures procedures').find? name := by
  refine NameTable.lookup_eq_of_perm (shuffled.map_perm ?_) ?_ name
  · intro procedure changed reordered
    rw [reordered.name, reordered.parameters]
  · simpa [Function.comp_def] using names_nodup

theorem find?_declaredScope_of_perm {locals changed : List Variable} (perm : locals.Perm changed)
    (names_nodup : (locals.map (·.name)).Nodup) (parameters : List Parameter) (name : Text) :
    (declaredScope locals parameters).find? name = (declaredScope changed parameters).find? name := by
  have found_alike := NameTable.lookup_eq_of_perm
    (perm.map fun declared => (declared.name, declared.type.token))
    (by simpa [Function.comp_def] using names_nodup) name
  rw [declaredScope, declaredScope, NameTable.find?, NameTable.find?, List.lookup_append,
    List.lookup_append, found_alike]

/-- Declarations with the same parameters, their variables and statements in some order, keep to the
rules alike. -/
theorem Declared.acceptable_iff_of_reordered
    (procedures_shuffled : Shuffled Procedure.Reordered procedures procedures')
    (procedures_nodup : (procedures.map (·.name)).Nodup) (robots_perm : robots.Perm robots')
    {declared changed : Declared} (parameters_same : declared.parameters = changed.parameters)
    (locals_perm : declared.locals.Perm changed.locals)
    (body_shuffled : Shuffled Statement.Reordered declared.body changed.body) :
    declared.Acceptable procedures robots everyone strict ↔
      changed.Acceptable procedures' robots' everyone strict := by
  obtain ⟨locals, parameters, body⟩ := declared
  obtain ⟨locals', parameters', body'⟩ := changed
  obtain rfl : parameters = parameters' := parameters_same
  have body_iff (locals_nodup : (locals.map (·.name)).Nodup) :
      (∀ statement ∈ body, statement.Accepted
        (declaredAround procedures robots everyone (declaredScope locals parameters))) ↔
      ∀ statement ∈ body', statement.Accepted
        (declaredAround procedures' robots' everyone (declaredScope locals' parameters)) := by
    refine body_shuffled.forall_mem_iff fun statement changed reordered => ?_
    rw [reordered.accepted_iff]
    apply Statement.accepted_iff_of_lookups
    · exact find?_declaredScope_of_perm locals_perm locals_nodup parameters
    · exact find?_declaredProcedures_of_shuffled procedures_shuffled procedures_nodup
    · intro recipient
      simp only [declaredAround, robots_perm.mem_iff]
  have locals_nodup_iff : (locals.map (·.name)).Nodup ↔ (locals'.map (·.name)).Nodup :=
    (locals_perm.map _).nodup_iff
  constructor
  · rintro ⟨parameters_nodup, locals_nodup, none_hidden, body_accepted⟩
    exact ⟨parameters_nodup, locals_nodup_iff.mp locals_nodup,
      fun is_strict one member => none_hidden is_strict one (locals_perm.mem_iff.mpr member),
      (body_iff locals_nodup).mp body_accepted⟩
  · rintro ⟨parameters_nodup, locals_nodup, none_hidden, body_accepted⟩
    have nodup := locals_nodup_iff.mpr locals_nodup
    exact ⟨parameters_nodup, nodup,
      fun is_strict one member => none_hidden is_strict one (locals_perm.mem_iff.mp member),
      (body_iff nodup).mpr body_accepted⟩

end Declarations

/-- A record of items with its kinds in another order. -/
structure Supply.Reordered (supply changed : Supply) : Prop where
  robot : supply.robot = changed.robot
  kinds : supply.kinds.Perm changed.kinds
  quantity : supply.quantity = changed.quantity

/-- A setup with its records in another order. -/
structure Setup.Reordered (setup changed : Setup) : Prop where
  grants : setup.grants.Perm changed.grants
  supplies : Shuffled Supply.Reordered setup.supplies changed.supplies
  origins : setup.origins.Perm changed.origins

/-- A roster in another order. -/
structure Roster.Reordered (roster changed : Roster) : Prop where
  areas : roster.areas.Perm changed.areas
  robots : roster.robots.Perm changed.robots
  headcount : roster.headcount = changed.headcount
  kinds : roster.kinds = changed.kinds

namespace Roster

variable {roster changed : Roster}

theorem Reordered.grantsAllowed_iff (reordered : roster.Reordered changed)
    {grants grants' : List Grant} (perm : grants.Perm grants') :
    roster.GrantsAllowed grants ↔ changed.GrantsAllowed grants' := by
  have counts_same (area : Text) : holderCount grants area = holderCount grants' area :=
    perm.countP_eq _
  simp only [Roster.grantsAllowed_iff, perm.mem_iff, (reordered.areas.map _).mem_iff,
    reordered.areas.mem_iff, reordered.robots.mem_iff, reordered.headcount, perm.nodup_iff,
    counts_same]

theorem Reordered.allTakePart_iff (reordered : roster.Reordered changed)
    {grants grants' : List Grant} (perm : grants.Perm grants') :
    roster.AllTakePart grants ↔ changed.AllTakePart grants' := by
  simp only [Roster.allTakePart_iff, reordered.areas.mem_iff, reordered.robots.mem_iff,
    perm.mem_iff]

theorem Reordered.suppliesAllowed_iff (reordered : roster.Reordered changed)
    {supplies supplies' : List Supply} (shuffled : Shuffled Supply.Reordered supplies supplies') :
    roster.SuppliesAllowed supplies ↔ changed.SuppliesAllowed supplies' := by
  have robots_iff : (∀ supply ∈ supplies, supply.robot ∈ roster.robots) ↔
      ∀ supply ∈ supplies', supply.robot ∈ changed.robots := by
    refine shuffled.forall_mem_iff fun supply supply' same => ?_
    rw [same.robot, reordered.robots.mem_iff]
  have kinds_iff : (∀ supply ∈ supplies, ∀ kind ∈ supply.kinds, kind ∈ roster.kinds) ↔
      ∀ supply ∈ supplies', ∀ kind ∈ supply.kinds, kind ∈ changed.kinds := by
    refine shuffled.forall_mem_iff fun supply supply' same => ?_
    simp only [same.kinds.mem_iff, reordered.kinds]
  have portions_perm : (supplies.flatMap Supply.portions).Perm
      (supplies'.flatMap Supply.portions) := by
    refine shuffled.flatMap_perm fun supply supply' same => ?_
    rw [Supply.portions, Supply.portions, same.robot]
    exact same.kinds.map _
  rw [Roster.suppliesAllowed_iff, Roster.suppliesAllowed_iff, robots_iff, kinds_iff,
    portions_perm.nodup_iff]

theorem Reordered.originsAllowed_iff (reordered : roster.Reordered changed)
    {grants grants' : List Grant} {origins origins' : List Origin}
    (grants_perm : grants.Perm grants') (perm : origins.Perm origins') :
    roster.OriginsAllowed grants origins ↔ changed.OriginsAllowed grants' origins' := by
  simp only [Roster.originsAllowed_iff, Covered, perm.mem_iff, reordered.robots.mem_iff,
    (perm.map _).count_eq, reordered.areas.mem_iff, grants_perm.mem_iff, (perm.map _).nodup_iff]

/-- A setup meets the same conditions in every order. -/
theorem Reordered.meets_iff (reordered : roster.Reordered changed) {setup setup' : Setup}
    (setup_reordered : setup.Reordered setup') (pass : SetupPass) :
    roster.Meets setup pass ↔ changed.Meets setup' pass := by
  cases pass with
  | areas => exact reordered.grantsAllowed_iff setup_reordered.grants
  | participation => exact reordered.allTakePart_iff setup_reordered.grants
  | items => exact reordered.suppliesAllowed_iff setup_reordered.supplies
  | origins => exact reordered.originsAllowed_iff setup_reordered.grants setup_reordered.origins

end Roster

theorem Area.Apart.symm {area other : Area} (apart : area.Apart other) : other.Apart area := by
  refine ⟨apart.names_differ.symm, fun overlap => apart.separate ?_⟩
  rwa [Rectangle.overlaps_comm]

namespace Program

/-- A program in another order: its declarations, the local variables and the statements of each,
the records of its setup, and the kinds of items in them.  Parameters keep their places. -/
structure Reordered (program changed : Program) : Prop where
  name : program.name = changed.name
  procedures : Shuffled Procedure.Reordered program.procedures changed.procedures
  areas : program.areas.Perm changed.areas
  robotTypes : Shuffled RobotType.Reordered program.robotTypes changed.robotTypes
  robots : program.robots.Perm changed.robots
  setup : program.setup.Reordered changed.setup

variable {configuration : Configuration} {kinds : List Text} {program changed : Program}

namespace Reordered

theorem roster (reordered : program.Reordered changed) (kinds : List Text) :
    (Roster.ofDeclared program.robots program.areas kinds).Reordered
      (Roster.ofDeclared changed.robots changed.areas kinds) where
  areas := reordered.areas
  robots := reordered.robots.map _
  headcount := reordered.robots.length_eq
  kinds := rfl

theorem procedure_names (reordered : program.Reordered changed) :
    (program.procedures.map (·.name)).Perm (changed.procedures.map (·.name)) :=
  reordered.procedures.map_perm fun _ _ same => same.name

theorem robotType_names (reordered : program.Reordered changed) :
    (program.robotTypes.map (·.name)).Perm (changed.robotTypes.map (·.name)) :=
  reordered.robotTypes.map_perm fun _ _ same => same.name

theorem declaredWell_iff (reordered : program.Reordered changed)
    (procedures_nodup : (program.procedures.map (·.name)).Nodup) :
    program.DeclaredWell configuration ↔ changed.DeclaredWell configuration := by
  have robots_perm : program.robotNames.Perm changed.robotNames := reordered.robots.map _
  rw [declaredWell_iff_forall, declaredWell_iff_forall]
  refine and_congr (reordered.procedures.forall_mem_iff fun procedure procedure' same => ?_)
    (reordered.robotTypes.forall_mem_iff fun robotType robotType' same => ?_)
  · exact Declared.acceptable_iff_of_reordered reordered.procedures procedures_nodup robots_perm
      same.parameters same.locals same.body
  · exact Declared.acceptable_iff_of_reordered reordered.procedures procedures_nodup robots_perm
      rfl same.locals same.body

theorem admissible_iff (reordered : program.Reordered changed) :
    program.Admissible configuration kinds ↔ changed.Admissible configuration kinds := by
  have areas_lie_iff : (∀ area ∈ program.areas, area.Lies configuration.grid) ↔
      ∀ area ∈ changed.areas, area.Lies configuration.grid := by
    simp only [reordered.areas.mem_iff]
  have areas_apart_iff : program.areas.Pairwise Area.Apart ↔ changed.areas.Pairwise Area.Apart :=
    reordered.areas.pairwise_iff Area.Apart.symm
  have types_iff : (∀ robot ∈ program.robots, robot.type ∈ program.robotTypes.map (·.name)) ↔
      ∀ robot ∈ changed.robots, robot.type ∈ changed.robotTypes.map (·.name) := by
    simp only [reordered.robots.mem_iff, reordered.robotType_names.mem_iff]
  have meets_iff := fun pass => (reordered.roster kinds).meets_iff reordered.setup pass
  constructor
  · intro admissible
    exact
      { bounds_showable := admissible.bounds_showable
        areas_lie := areas_lie_iff.mp admissible.areas_lie
        areas_apart := areas_apart_iff.mp admissible.areas_apart
        robots_nodup := (reordered.robots.map _).nodup_iff.mp admissible.robots_nodup
        types_declared := types_iff.mp admissible.types_declared
        setup_meets := fun pass => (meets_iff pass).mp (admissible.setup_meets pass)
        procedures_nodup := reordered.procedure_names.nodup_iff.mp admissible.procedures_nodup
        robotTypes_nodup := reordered.robotType_names.nodup_iff.mp admissible.robotTypes_nodup
        declaredWell := (reordered.declaredWell_iff admissible.procedures_nodup).mp
          admissible.declaredWell }
  · intro admissible
    have procedures_nodup := reordered.procedure_names.nodup_iff.mpr admissible.procedures_nodup
    exact
      { bounds_showable := admissible.bounds_showable
        areas_lie := areas_lie_iff.mpr admissible.areas_lie
        areas_apart := areas_apart_iff.mpr admissible.areas_apart
        robots_nodup := (reordered.robots.map _).nodup_iff.mpr admissible.robots_nodup
        types_declared := types_iff.mpr admissible.types_declared
        setup_meets := fun pass => (meets_iff pass).mpr (admissible.setup_meets pass)
        procedures_nodup
        robotTypes_nodup := reordered.robotType_names.nodup_iff.mpr admissible.robotTypes_nodup
        declaredWell := (reordered.declaredWell_iff procedures_nodup).mpr
          admissible.declaredWell }

end Reordered

/-- Whether a program is accepted does not depend on the order of its areas, robot types, robots,
procedures and records, of the variables and statements of a declaration, of the statements of a
block at any depth, and of the kinds in a record of items. -/
theorem acceptance_ignores_order
    (kinds_given : configuration.settings.itemKinds = kinds.map .string)
    (reordered : program.Reordered changed) :
    program.verdict configuration = .ok none ↔ changed.verdict configuration = .ok none := by
  rw [verdict_eq_none_iff_admissible kinds_given, verdict_eq_none_iff_admissible kinds_given,
    reordered.admissible_iff]

/-- A robot type that counts its steps in a block. -/
def watchman : RobotType :=
  { sentry with
    locals := [⟨"count", .numeric⟩, ⟨"moved", .boolean⟩]
    body :=
      [ .times (.integer 3) (.block
          [.assign "moved" (.boolean true), .call "advance" [.variable "count", .query "PosAv"]])
      , .exchange .send (.variable "count") "r2" ] }

/-- Two watchmen. -/
def watch : Program := { patrol with robotTypes := [watchman] }

/-- The same watchmen with everything the other way round. -/
def watchBackwards : Program :=
  { watch with
    areas := watch.areas.reverse
    robotTypes :=
      [{ watchman with
        locals := watchman.locals.reverse
        body :=
          [ .exchange .send (.variable "count") "r2"
          , .times (.integer 3) (.block
              [ .call "advance" [.variable "count", .query "PosAv"]
              , .assign "moved" (.boolean true) ]) ] }]
    robots := watch.robots.reverse
    setup :=
      { grants := watch.setup.grants.reverse
        supplies := [⟨"r1", ["paper", "flower"], 0⟩]
        origins := watch.setup.origins.reverse } }

theorem watch_reordered : watch.Reordered watchBackwards := by
  let send : Statement := .exchange .send (.variable "count") "r2"
  let move : Statement := .assign "moved" (.boolean true)
  let step : Statement := .call "advance" [.variable "count", .query "PosAv"]
  let repeated (body : List Statement) : Statement := .times (.integer 3) (.block body)
  have block_reordered : (repeated [move, step]).Reordered (repeated [step, move]) := by
    refine .times (@Statement.Reordered.block [(move, move), (step, step)] _ ?_ (.swap _ _ _))
    simp [Statement.Reordered.refl]
  have body_reordered : Shuffled Statement.Reordered watchman.body
      [send, repeated [step, move]] := by
    refine ⟨[(repeated [move, step], repeated [step, move]), (send, send)], rfl, .swap _ _ _, ?_⟩
    simp [block_reordered, Statement.Reordered.refl]
  have advance_reordered : advance.Reordered advance :=
    ⟨rfl, rfl, .refl _, advance.body.map (fun statement => (statement, statement)), rfl, .refl _,
      by simp [advance, Statement.Reordered.refl]⟩
  exact
    { name := rfl
      procedures := ⟨[(advance, advance)], rfl, .refl _, by simp [advance_reordered]⟩
      areas := (List.reverse_perm _).symm
      robotTypes := ⟨[(watchman, _)], rfl, .refl _,
        by simpa using ⟨rfl, (List.reverse_perm _).symm, body_reordered⟩⟩
      robots := (List.reverse_perm _).symm
      setup :=
        ⟨(List.reverse_perm _).symm,
          ⟨[(⟨"r1", ["flower", "paper"], 0⟩, ⟨"r1", ["paper", "flower"], 0⟩)], rfl, .refl _,
            by simpa using ⟨rfl, .swap _ _ _, rfl⟩⟩,
          (List.reverse_perm _).symm⟩ }

theorem watch_accepted_backwards :
    Configuration.standard.settings.itemKinds = (["flower", "paper"] : List Text).map .string ∧
      watch.Reordered watchBackwards ∧ watchBackwards.verdict .standard = .ok none := by
  have kinds_given : Configuration.standard.settings.itemKinds =
      (["flower", "paper"] : List Text).map .string := rfl
  have accepted : watch.verdict .standard = .ok none := rfl
  exact ⟨kinds_given, watch_reordered,
    (acceptance_ignores_order kinds_given watch_reordered).mp accepted⟩

end Program
end RobotCity
