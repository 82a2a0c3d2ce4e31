import RobotCity.Proofs.Declarations
import RobotCity.Proofs.Occupancy

/-!
# What names stand for

Wherever a program names something, it declares exactly one thing of this name.  That there is one is
found by the stage that meets the name, and that there is no second one often by another stage.
-/

namespace RobotCity

/-- Exactly one item of a list has a name. -/
def NamesOne {α : Type} (name : α → Text) (items : List α) (wanted : Text) : Prop :=
  ∃ item, items.filter (name · = wanted) = [item]

theorem namesOne_of_mem {α : Type} {name : α → Text} {items : List α} {wanted : Text}
    (names_nodup : (items.map name).Nodup) (member : wanted ∈ items.map name) :
    NamesOne name items wanted := by
  obtain ⟨item, item_member, rfl⟩ := List.mem_map.mp member
  have looked_up := NameTable.find?_tabulate_of_mem name id names_nodup item_member
  obtain ⟨only, filtered, -⟩ := exists_only_of_lookup name id names_nodup looked_up
  exact ⟨only, filtered⟩

/-- What procedures and robot types have in common: variables, and statements that use them. -/
structure Declared where
  locals : List Variable
  parameters : List Parameter
  body : List Statement

/-- The variables and statements of a procedure. -/
def Procedure.declared (procedure : Procedure) : Declared :=
  { locals := procedure.locals, parameters := procedure.parameters, body := procedure.body }

/-- The variables and statements of a robot type, which has no parameters. -/
def RobotType.declared (robotType : RobotType) : Declared :=
  { locals := robotType.locals, parameters := [], body := robotType.body }

/-- The variables and statements of all declarations of a program. -/
def Program.declared (program : Program) : List Declared :=
  program.procedures.map Procedure.declared ++ program.robotTypes.map RobotType.declared

namespace Declared

variable {declared : Declared} {name type : Text}

/-- The variables of a declaration as the check looks them up. -/
def scope (declared : Declared) : Scope :=
  scopeOf declared.locals declared.parameters

/-- The variables of a declaration have names of their own in each of its two lists. -/
structure Distinct (declared : Declared) : Prop where
  locals_nodup : (declared.locals.map (·.name)).Nodup
  parameters_nodup : (declared.parameters.map (·.name)).Nodup

/-- The one variable that a name stands for has a type: the only local variable of this name or, if
there is none, the only parameter. -/
inductive Refers (declared : Declared) (name : Text) : ValueType → Prop
  | ofLocal {one : Variable} : declared.locals.filter (·.name = name) = [one] →
    Refers declared name one.type
  | ofParameter {one : Parameter} : declared.locals.filter (·.name = name) = [] →
    declared.parameters.filter (·.name = name) = [one] → Refers declared name one.type

theorem filter_eq_nil_of_lookup {α β : Type} (name : α → Text) (value : α → β) {items : List α}
    {wanted : Text}
    (not_found : (items.map fun item => (name item, value item)).lookup wanted = none) :
    items.filter (name · = wanted) = [] := by
  rw [List.filter_eq_nil_iff]
  intro item member named
  obtain rfl : name item = wanted := of_decide_eq_true named
  have differs := List.lookup_eq_none_iff.mp not_found _ (List.mem_map_of_mem member)
  simp at differs

/-- What is found in the scope of a declaration is what the name stands for. -/
theorem Distinct.refers (distinct : declared.Distinct)
    (found : (declaredScope declared.locals declared.parameters).find? name = some type) :
    ∃ meant, declared.Refers name meant ∧ meant.token = type := by
  rw [declaredScope, NameTable.find?, List.lookup_append, Option.or_eq_some_iff] at found
  rcases found with in_locals | ⟨not_in_locals, in_parameters⟩
  · obtain ⟨one, only, rfl⟩ := exists_only_of_lookup Variable.name (fun one => one.type.token)
      distinct.locals_nodup in_locals
    exact ⟨one.type, .ofLocal only, rfl⟩
  · obtain ⟨one, only, rfl⟩ := exists_only_of_lookup Parameter.name (fun one => one.type.token)
      distinct.parameters_nodup in_parameters
    exact ⟨one.type, .ofParameter (filter_eq_nil_of_lookup _ _ not_in_locals) only, rfl⟩

end Declared

/-- What is found in a scope is the only entry of its name. -/
theorem entries_scopeOf_filter {locals : List Variable} {parameters : List Parameter}
    {name type : Text} (found : (scopeOf locals parameters).find? name = some type) :
    (scopeOf locals parameters).entries.filter (·.1 = name) = [(name, type)] := by
  have names_nodup : (scopeOf locals parameters).names.Nodup := NameTable.names_ofFirst_nodup _
  have looked_up : ((scopeOf locals parameters).entries.map fun entry =>
      (entry.1, entry.2)).lookup name = some type := by
    simpa [NameTable.find?] using found
  obtain ⟨⟨own, given⟩, only, rfl⟩ := exists_only_of_lookup Prod.fst Prod.snd names_nodup looked_up
  have member : (own, given) ∈ (scopeOf locals parameters).entries.filter (·.1 = name) := by
    rw [only]
    exact List.mem_singleton_self _
  obtain rfl : own = name := of_decide_eq_true (List.mem_filter.mp member).2
  exact only

/-- What a statement itself names is declared exactly once. -/
def Statement.Resolves (everyone : Json) (program : Program) (declared : Declared) :
    Statement → Prop
  | .assign target _ =>
    ∃ type, declared.Refers target type ∧
      declared.scope.entries.filter (·.1 = target) = [(target, type.token)]
  | .exchange _ _ recipient =>
    everyone = .string recipient ∨ NamesOne Robot.name program.robots recipient
  | .call procedure _ => NamesOne Procedure.name program.procedures procedure
  | _ => True

theorem Settings.everyone_of_everyone? {settings : Settings} {recipient : Text}
    (named : settings.everyone? = some recipient) : settings.everyone = .string recipient := by
  obtain ⟨_, everyone, _⟩ := settings
  cases everyone <;> simp_all [Settings.everyone?]

namespace Program

variable {configuration : Configuration} {program : Program} {kinds : List Text}

theorem declared_distinct (accepted : program.verdict configuration = .ok none)
    {declared : Declared} (member : declared ∈ program.declared) : declared.Distinct := by
  have faultless := verdict_eq_none_iff.mp accepted
  rcases List.mem_append.mp member with of_procedure | of_robotType
  · obtain ⟨procedure, procedure_member, rfl⟩ := List.mem_map.mp of_procedure
    have acceptable := (proceduresFault?_eq_none_iff.mp faultless.procedures).2 procedure
      procedure_member
    exact ⟨acceptable.locals_nodup, acceptable.parameters_nodup⟩
  · obtain ⟨robotType, robotType_member, rfl⟩ := List.mem_map.mp of_robotType
    have acceptable := (robotTypesFault?_eq_none_iff.mp faultless.robotTypes).2 robotType
      robotType_member
    exact ⟨acceptable.locals_nodup, List.nodup_nil⟩

theorem mem_bodies_of_mem_declared {declared : Declared} (member : declared ∈ program.declared) :
    (declaredScope declared.locals declared.parameters, declared.body) ∈ program.bodies := by
  rcases List.mem_append.mp member with of_procedure | of_robotType
  · obtain ⟨procedure, procedure_member, rfl⟩ := List.mem_map.mp of_procedure
    exact List.mem_append_left _ (List.mem_map_of_mem procedure_member)
  · obtain ⟨robotType, robotType_member, rfl⟩ := List.mem_map.mp of_robotType
    exact List.mem_append_right _ (List.mem_map_of_mem robotType_member)

/-- In an accepted body every statement resolves, at whatever depth it stands. -/
theorem statement_resolves (accepted : program.verdict configuration = .ok none)
    {declared : Declared} (member : declared ∈ program.declared) {statement : Statement}
    (stands : statement.StandsInBody declared.body) :
    statement.Resolves configuration.settings.everyone program declared := by
  have faultless := verdict_eq_none_iff.mp accepted
  have robots_nodup := (robotsFault?_eq_none_iff.mp faultless.robots).1
  have procedures_nodup := (proceduresFault?_eq_none_iff.mp faultless.procedures).1
  have statement_accepted := Statement.accepted_of_standsInBody
    (body_accepted accepted (mem_bodies_of_mem_declared member)) stands
  cases statement_accepted with
  | assign found _ =>
      obtain ⟨type, refers, rfl⟩ := (declared_distinct accepted member).refers found
      refine ⟨type, refers, entries_scopeOf_filter ?_⟩
      rwa [find?_scopeOf]
  | exchange _ reaches =>
      rcases reaches with to_everyone | to_robot
      · exact .inl (Settings.everyone_of_everyone? to_everyone)
      · exact .inr (namesOne_of_mem robots_nodup to_robot)
  | call found _ =>
      obtain ⟨callee, only, -⟩ := callee_unique procedures_nodup found
      exact ⟨callee, only⟩
  | _ => trivial

/-- Everything that a program names stands for exactly one thing that it declares, but for the
recipient that stands for every robot. -/
structure Resolves (everyone : Json) (program : Program) : Prop where
  robot_types : ∀ robot ∈ program.robots, NamesOne RobotType.name program.robotTypes robot.type
  granted_areas : ∀ grant ∈ program.setup.grants, NamesOne Area.name program.areas grant.area
  granted_robots : ∀ grant ∈ program.setup.grants, NamesOne Robot.name program.robots grant.robot
  supplied_robots : ∀ supply ∈ program.setup.supplies,
    NamesOne Robot.name program.robots supply.robot
  placed_robots : ∀ origin ∈ program.setup.origins,
    NamesOne Robot.name program.robots origin.robot
  statements : ∀ declared ∈ program.declared, ∀ statement : Statement,
    statement.StandsInBody declared.body → statement.Resolves everyone program declared

/-- Every name in an accepted program stands for exactly one declaration. -/
theorem names_resolve (kinds_given : configuration.settings.itemKinds = kinds.map .string)
    (accepted : program.verdict configuration = .ok none) :
    program.Resolves configuration.settings.everyone := by
  -- The second stage finds the type of a robot, but only the last one finds types of one name.
  have faultless := verdict_eq_none_iff.mp accepted
  have areas_nodup := areas_nodup_of_apart (areasFault?_eq_none_iff.mp faultless.areas).2.2
  obtain ⟨robots_nodup, types_declared⟩ := robotsFault?_eq_none_iff.mp faultless.robots
  have types_nodup := (robotTypesFault?_eq_none_iff.mp faultless.robotTypes).1
  have setup_faultless := faultless.setup
  rw [kinds_given] at setup_faultless
  have meets := Setup.meets_of_faultless ⟨areas_nodup, robots_nodup⟩ setup_faultless
  have granted : Roster.GrantsAllowed _ program.setup.grants := meets .areas
  have supplied : Roster.SuppliesAllowed _ program.setup.supplies := meets .items
  have placed : Roster.OriginsAllowed _ program.setup.grants program.setup.origins :=
    meets .origins
  exact
    { robot_types := fun robot member =>
        namesOne_of_mem types_nodup (types_declared robot member)
      granted_areas := fun grant member =>
        namesOne_of_mem areas_nodup (granted.area_declared grant member)
      granted_robots := fun grant member =>
        namesOne_of_mem robots_nodup (granted.robot_declared grant member)
      supplied_robots := fun supply member =>
        namesOne_of_mem robots_nodup (supplied.robot_declared supply member)
      placed_robots := fun origin member =>
        namesOne_of_mem robots_nodup (placed.robot_declared origin member)
      statements := fun _ member _ stands => statement_resolves accepted member stands }

theorem patrol_names_resolve :
    Configuration.standard.settings.itemKinds = (["flower", "paper"] : List Text).map .string ∧
      patrol.verdict .standard = .ok none ∧ patrol.Resolves (.string "*") := by
  have kinds_given : Configuration.standard.settings.itemKinds =
      (["flower", "paper"] : List Text).map .string := rfl
  have accepted : patrol.verdict .standard = .ok none := rfl
  exact ⟨kinds_given, accepted, names_resolve kinds_given accepted⟩

end Program
end RobotCity
