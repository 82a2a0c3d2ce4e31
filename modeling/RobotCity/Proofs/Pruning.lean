import Mathlib.Data.List.Flatten
import Mathlib.Logic.Relation
import RobotCity.Proofs.Acceptance

/-!
# Parts that can be left out

An accepted program stays accepted when parts of it are left out on which nothing else depends:
statements, branches of a `sino`, local variables that are not used, procedures that are not called
from elsewhere, and items that are given out.
-/

namespace RobotCity

/-- A list with one item left out. -/
inductive DropsOne {α : Type} : List α → List α → Prop
  | drop (front : List α) (item : α) (back : List α) : DropsOne (front ++ item :: back) (front ++ back)

/-- A list with one item altered. -/
inductive AltersOne {α : Type} (alters : α → α → Prop) : List α → List α → Prop
  | alter (front : List α) {item altered : α} (back : List α) :
    alters item altered → AltersOne alters (front ++ item :: back) (front ++ altered :: back)

section Lists

variable {α β : Type} {items changed : List α} {alters : α → α → Prop}

theorem DropsOne.sublist (drops : DropsOne items changed) : changed.Sublist items := by
  obtain ⟨front, item, back⟩ := drops
  exact (List.sublist_cons_self item back).append_left front

theorem AltersOne.map_eq (altered : AltersOne alters items changed) {value : α → β}
    (same : ∀ item other, alters item other → value item = value other) :
    items.map value = changed.map value := by
  obtain ⟨front, back, one_altered⟩ := altered
  simp [same _ _ one_altered]

/-- What holds of the item that is altered and of all others holds afterwards. -/
theorem AltersOne.forall_mem (altered : AltersOne alters items changed) {condition : α → Prop}
    (holds : ∀ item ∈ items, condition item)
    (kept : ∀ item other, alters item other → condition item → condition other) :
    ∀ item ∈ changed, condition item := by
  obtain ⟨front, back, one_altered⟩ := altered
  obtain ⟨front_holds, rest_holds⟩ := List.forall_mem_append.mp holds
  obtain ⟨one_holds, back_holds⟩ := List.forall_mem_cons.mp rest_holds
  exact List.forall_mem_append.mpr ⟨front_holds,
    List.forall_mem_cons.mpr ⟨kept _ _ one_altered one_holds, back_holds⟩⟩

/-- Leaving an entry out does not change what is found under other names. -/
theorem NameTable.lookup_append_of_ne {name other : Text} (differs : name ≠ other) (value : α)
    (front back : List (Text × α)) :
    (front ++ (other, value) :: back).lookup name = (front ++ back).lookup name := by
  rw [List.lookup_append, List.lookup_append, lookup_cons_eq_if, if_neg differs]

end Lists

namespace Statement

/-- A statement with one statement of a block, or the branch of a `sino`, left out at any depth. -/
inductive Prunes : Statement → Statement → Prop
  | drop {body rest : List Statement} : DropsOne body rest → Prunes (.block body) (.block rest)
  | inside {front back : List Statement} {statement pruned : Statement} :
    Prunes statement pruned →
    Prunes (.block (front ++ statement :: back)) (.block (front ++ pruned :: back))
  | otherwise {condition : Expression} {body otherwise : Statement} :
    Prunes (.ifElse condition body otherwise) (.ifThen condition body)
  | ifThen {condition : Expression} {body pruned : Statement} :
    Prunes body pruned → Prunes (.ifThen condition body) (.ifThen condition pruned)
  | ifElseBody {condition : Expression} {body pruned otherwise : Statement} :
    Prunes body pruned →
    Prunes (.ifElse condition body otherwise) (.ifElse condition pruned otherwise)
  | ifElseOtherwise {condition : Expression} {body otherwise pruned : Statement} :
    Prunes otherwise pruned →
    Prunes (.ifElse condition body otherwise) (.ifElse condition body pruned)
  | times {count : Expression} {body pruned : Statement} :
    Prunes body pruned → Prunes (.times count body) (.times count pruned)
  | loop {condition : Expression} {body pruned : Statement} :
    Prunes body pruned → Prunes (.loop condition body) (.loop condition pruned)

/-- A body with one statement or branch left out at any depth. -/
def BodyPrunes (body pruned : List Statement) : Prop :=
  (Statement.block body).Prunes (.block pruned)

theorem Prunes.accepted {around : Surroundings} {statement pruned : Statement}
    (prunes : statement.Prunes pruned) (accepted : statement.Accepted around) :
    pruned.Accepted around := by
  induction prunes with
  | drop drops =>
      cases accepted with
      | block all_accepted => exact .block fun part member => all_accepted part (drops.sublist.mem member)
  | @inside front back statement pruned _ ih =>
      cases accepted with
      | block all_accepted =>
          have altered : AltersOne (fun first second => statement = first ∧ pruned = second)
              (front ++ statement :: back) (front ++ pruned :: back) := .alter front back ⟨rfl, rfl⟩
          refine .block (altered.forall_mem all_accepted ?_)
          rintro _ _ ⟨rfl, rfl⟩ first_accepted
          exact ih first_accepted
  | otherwise =>
      cases accepted with
      | ifElse typed body_accepted _ => exact .ifThen typed body_accepted
  | ifThen _ ih =>
      cases accepted with
      | ifThen typed body_accepted => exact .ifThen typed (ih body_accepted)
  | ifElseBody _ ih =>
      cases accepted with
      | ifElse typed body_accepted otherwise_accepted =>
          exact .ifElse typed (ih body_accepted) otherwise_accepted
  | ifElseOtherwise _ ih =>
      cases accepted with
      | ifElse typed body_accepted otherwise_accepted =>
          exact .ifElse typed body_accepted (ih otherwise_accepted)
  | times _ ih =>
      cases accepted with
      | times typed body_accepted => exact .times typed (ih body_accepted)
  | loop _ ih =>
      cases accepted with
      | loop typed body_accepted => exact .loop typed (ih body_accepted)

theorem BodyPrunes.all_accepted {around : Surroundings} {body pruned : List Statement}
    (prunes : BodyPrunes body pruned)
    (all_accepted : ∀ statement ∈ body, statement.Accepted around) :
    ∀ statement ∈ pruned, statement.Accepted around := by
  cases Prunes.accepted prunes (.block all_accepted) with
  | block pruned_accepted => exact pruned_accepted

end Statement

/-! ## Declarations and items -/

namespace Declared

/-- A declaration with a part of its body, or with a local variable that its body does not use, left
out. -/
inductive Prunes (declared : Declared) : Declared → Prop
  | body {pruned : List Statement} : Statement.BodyPrunes declared.body pruned →
    Prunes declared { declared with body := pruned }
  | unused {front back : List Variable} {one : Variable} :
    declared.locals = front ++ one :: back →
    (∀ statement ∈ declared.body, ¬statement.Uses one.name) →
    Prunes declared { declared with locals := front ++ back }

variable {procedures procedures' : List Procedure} {robots : List Text} {everyone : Option Text}
  {strict : Bool} {declared pruned : Declared}

theorem Prunes.parameters_eq (prunes : declared.Prunes pruned) :
    pruned.parameters = declared.parameters := by
  cases prunes <;> rfl

theorem find?_declaredScope_of_ne {front back : List Variable} {one : Variable} {name : Text}
    (differs : name ≠ one.name) (parameters : List Parameter) :
    (declaredScope (front ++ one :: back) parameters).find? name =
      (declaredScope (front ++ back) parameters).find? name := by
  simp only [declaredScope, NameTable.find?, List.map_append, List.map_cons, List.append_assoc,
    List.cons_append]
  exact NameTable.lookup_append_of_ne differs _ _ _

/-- What is left of an acceptable declaration is acceptable. -/
theorem Acceptable.of_prunes
    (acceptable : declared.Acceptable procedures robots everyone strict)
    (prunes : declared.Prunes pruned) : pruned.Acceptable procedures robots everyone strict := by
  cases prunes with
  | body body_prunes =>
      exact { acceptable with body_accepted := body_prunes.all_accepted acceptable.body_accepted }
  | @unused front back one split unused =>
      obtain ⟨locals, parameters, body⟩ := declared
      obtain rfl : locals = front ++ one :: back := split
      have fewer : (front ++ back).Sublist (front ++ one :: back) := (DropsOne.drop ..).sublist
      refine ⟨acceptable.parameters_nodup, acceptable.locals_nodup.sublist (fewer.map _),
        fun is_strict other member => acceptable.none_hidden is_strict other (fewer.mem member),
        fun statement member => ?_⟩
      have all_known : Surroundings.Suffices
          (declaredAround procedures robots everyone
            (declaredScope (front ++ one :: back) parameters))
          (declaredAround procedures robots everyone (declaredScope (front ++ back) parameters))
          statement := by
        refine ⟨fun name uses type found => ?_, fun _ _ _ found => found, fun _ reaches => reaches⟩
        have differs : name ≠ one.name := by
          rintro rfl
          exact unused statement member uses
        exact (find?_declaredScope_of_ne differs parameters).symm.trans found
      exact all_known.accepted (acceptable.body_accepted statement member)

/-- A declaration stays acceptable as long as the procedures that it calls are kept. -/
theorem Acceptable.of_calls
    (acceptable : declared.Acceptable procedures robots everyone strict)
    (known : ∀ statement ∈ declared.body, ∀ name, statement.Calls name →
      (declaredProcedures procedures).find? name = (declaredProcedures procedures').find? name) :
    declared.Acceptable procedures' robots everyone strict := by
  refine { acceptable with body_accepted := fun statement member => ?_ }
  have all_known (scope : Scope) : Surroundings.Suffices
      (declaredAround procedures robots everyone scope)
      (declaredAround procedures' robots everyone scope) statement :=
    ⟨fun _ _ _ found => found,
      fun name calls _ found => (known statement member name calls).symm.trans found,
      fun _ reaches => reaches⟩
  exact (all_known _).accepted (acceptable.body_accepted statement member)

end Declared

/-- A procedure with a part left out. -/
structure Procedure.Prunes (procedure pruned : Procedure) : Prop where
  name : procedure.name = pruned.name
  declared : procedure.declared.Prunes pruned.declared

/-- A robot type with a part left out. -/
structure RobotType.Prunes (robotType pruned : RobotType) : Prop where
  name : robotType.name = pruned.name
  declared : robotType.declared.Prunes pruned.declared

theorem Procedure.Prunes.parameters_eq {procedure pruned : Procedure}
    (prunes : procedure.Prunes pruned) : procedure.parameters = pruned.parameters :=
  prunes.declared.parameters_eq.symm

theorem declaredProcedures_of_alters {procedures procedures' : List Procedure}
    (altered : AltersOne Procedure.Prunes procedures procedures') :
    declaredProcedures procedures = declaredProcedures procedures' := by
  refine congrArg NameTable.mk (altered.map_eq fun procedure pruned prunes => ?_)
  rw [prunes.name, prunes.parameters_eq]

theorem find?_declaredProcedures_of_ne {front back : List Procedure} {one : Procedure} {name : Text}
    (differs : name ≠ one.name) :
    (declaredProcedures (front ++ one :: back)).find? name =
      (declaredProcedures (front ++ back)).find? name := by
  simp only [declaredProcedures, NameTable.find?, List.map_append, List.map_cons]
  exact NameTable.lookup_append_of_ne differs _ _ _

/-- A record of items with one kind left out. -/
structure Supply.Prunes (supply pruned : Supply) : Prop where
  robot : supply.robot = pruned.robot
  kinds : DropsOne supply.kinds pruned.kinds
  quantity : supply.quantity = pruned.quantity

namespace Roster

variable {roster : Roster} {supplies changed : List Supply}

theorem SuppliesAllowed.of_drops (allowed : roster.SuppliesAllowed supplies)
    (drops : DropsOne supplies changed) : roster.SuppliesAllowed changed where
  robot_declared supply member := allowed.robot_declared supply (drops.sublist.mem member)
  kind_known supply member := allowed.kind_known supply (drops.sublist.mem member)
  portions_nodup := allowed.portions_nodup.sublist (drops.sublist.flatMap _)

theorem SuppliesAllowed.of_alters (allowed : roster.SuppliesAllowed supplies)
    (altered : AltersOne Supply.Prunes supplies changed) : roster.SuppliesAllowed changed where
  robot_declared := altered.forall_mem allowed.robot_declared fun _ _ prunes declared =>
    prunes.robot ▸ declared
  kind_known := altered.forall_mem allowed.kind_known fun _ _ prunes known kind member =>
    known kind (prunes.kinds.sublist.mem member)
  portions_nodup := by
    refine allowed.portions_nodup.sublist ?_
    obtain ⟨front, back, prunes⟩ := altered
    simp only [List.flatMap_append, List.flatMap_cons, Supply.portions, prunes.robot]
    exact ((prunes.kinds.sublist.map _).append_right _).append_left _

end Roster

/-! ## Programs -/

namespace Program

/-- A program with one part left out on which no other one depends. -/
inductive Prunes (program : Program) : Program → Prop
  | insideProcedure {procedures : List Procedure} :
    AltersOne Procedure.Prunes program.procedures procedures →
    Prunes program { program with procedures }
  | insideRobotType {robotTypes : List RobotType} :
    AltersOne RobotType.Prunes program.robotTypes robotTypes →
    Prunes program { program with robotTypes }
  /-- A procedure may call itself. -/
  | procedure {front back : List Procedure} {one : Procedure} :
    program.procedures = front ++ one :: back →
    (∀ other ∈ front ++ back, ∀ statement ∈ other.body, ¬statement.Calls one.name) →
    (∀ robotType ∈ program.robotTypes, ∀ statement ∈ robotType.body,
      ¬statement.Calls one.name) →
    Prunes program { program with procedures := front ++ back }
  | supply {supplies : List Supply} : DropsOne program.setup.supplies supplies →
    Prunes program { program with setup := { program.setup with supplies } }
  | kind {supplies : List Supply} : AltersOne Supply.Prunes program.setup.supplies supplies →
    Prunes program { program with setup := { program.setup with supplies } }

variable {configuration : Configuration} {kinds : List Text} {program pruned : Program}

/-- The items that are given out matter to one pass of the check alone. -/
theorem Admissible.of_supplies (admissible : program.Admissible configuration kinds)
    {supplies : List Supply}
    (allowed : (Roster.ofDeclared program.robots program.areas kinds).SuppliesAllowed
        program.setup.supplies →
      (Roster.ofDeclared program.robots program.areas kinds).SuppliesAllowed supplies) :
    Admissible configuration kinds
      { program with setup := { program.setup with supplies } } := by
  refine { admissible with setup_meets := fun pass => ?_ }
  have met := admissible.setup_meets pass
  cases pass with
  | areas => exact met
  | participation => exact met
  | items => exact allowed met
  | origins => exact met

/-- A part of one procedure may be left out: its parameters, which are all that calls depend on,
stay. -/
theorem Admissible.of_insideProcedure (admissible : program.Admissible configuration kinds)
    {procedures : List Procedure}
    (altered : AltersOne Procedure.Prunes program.procedures procedures) :
    Admissible configuration kinds { program with procedures } := by
  obtain ⟨procedures_acceptable, robotTypes_acceptable⟩ :=
    declaredWell_iff_forall.mp admissible.declaredWell
  have table_same := declaredProcedures_of_alters altered
  have names_same : program.procedures.map (·.name) = procedures.map (·.name) :=
    altered.map_eq fun _ _ prunes => prunes.name
  have acceptable_under_new {declared : Declared}
      (acceptable : declared.Acceptable program.procedures program.robotNames
        configuration.settings.everyone? configuration.settings.isStrict) :
      declared.Acceptable procedures program.robotNames configuration.settings.everyone?
        configuration.settings.isStrict :=
    acceptable.of_calls fun _ _ name _ => congrArg (·.find? name) table_same
  have pruned_acceptable := altered.forall_mem procedures_acceptable
    fun _ _ prunes acceptable => acceptable.of_prunes prunes.declared
  exact
    { admissible with
      procedures_nodup := names_same ▸ admissible.procedures_nodup
      declaredWell := declaredWell_iff_forall.mpr
        ⟨fun procedure member => acceptable_under_new (pruned_acceptable procedure member),
          fun robotType member => acceptable_under_new (robotTypes_acceptable robotType member)⟩ }

/-- A part of one robot type may be left out. -/
theorem Admissible.of_insideRobotType (admissible : program.Admissible configuration kinds)
    {robotTypes : List RobotType}
    (altered : AltersOne RobotType.Prunes program.robotTypes robotTypes) :
    Admissible configuration kinds { program with robotTypes } := by
  obtain ⟨procedures_acceptable, robotTypes_acceptable⟩ :=
    declaredWell_iff_forall.mp admissible.declaredWell
  have names_same : program.robotTypes.map (·.name) = robotTypes.map (·.name) :=
    altered.map_eq fun _ _ prunes => prunes.name
  have pruned_acceptable := altered.forall_mem robotTypes_acceptable
    fun _ _ prunes acceptable => acceptable.of_prunes prunes.declared
  exact
    { admissible with
      robotTypes_nodup := names_same ▸ admissible.robotTypes_nodup
      types_declared := names_same ▸ admissible.types_declared
      declaredWell := declaredWell_iff_forall.mpr ⟨procedures_acceptable, pruned_acceptable⟩ }

/-- A procedure may be left out that no other declaration calls. -/
theorem Admissible.of_uncalled (admissible : program.Admissible configuration kinds)
    {front back : List Procedure} {one : Procedure}
    (split : program.procedures = front ++ one :: back)
    (uncalled : ∀ other ∈ front ++ back, ∀ statement ∈ other.body, ¬statement.Calls one.name)
    (uncalled_by_types : ∀ robotType ∈ program.robotTypes, ∀ statement ∈ robotType.body,
      ¬statement.Calls one.name) :
    Admissible configuration kinds { program with procedures := front ++ back } := by
  obtain ⟨procedures_acceptable, robotTypes_acceptable⟩ :=
    declaredWell_iff_forall.mp admissible.declaredWell
  have fewer : (front ++ back).Sublist program.procedures :=
    split ▸ (DropsOne.drop front one back).sublist
  have kept {statement : Statement} (uncalled : ¬statement.Calls one.name) (name : Text)
      (calls : statement.Calls name) :
      (declaredProcedures program.procedures).find? name =
        (declaredProcedures (front ++ back)).find? name := by
    have differs : name ≠ one.name := by
      rintro rfl
      exact uncalled calls
    rw [split, find?_declaredProcedures_of_ne differs]
  refine { admissible with
    procedures_nodup := admissible.procedures_nodup.sublist (fewer.map _)
    declaredWell := declaredWell_iff_forall.mpr ⟨?_, ?_⟩ }
  · intro other member
    exact (procedures_acceptable other (fewer.mem member)).of_calls
      fun statement in_body => kept (uncalled other member statement in_body)
  · intro robotType member
    exact (robotTypes_acceptable robotType member).of_calls
      fun statement in_body => kept (uncalled_by_types robotType member statement in_body)

/-- Leaving one part out keeps a program admissible. -/
theorem Prunes.admissible (prunes : program.Prunes pruned)
    (admissible : program.Admissible configuration kinds) :
    pruned.Admissible configuration kinds := by
  cases prunes with
  | insideProcedure altered => exact admissible.of_insideProcedure altered
  | insideRobotType altered => exact admissible.of_insideRobotType altered
  | procedure split uncalled uncalled_by_types =>
      exact admissible.of_uncalled split uncalled uncalled_by_types
  | supply drops => exact admissible.of_supplies fun allowed => allowed.of_drops drops
  | kind altered => exact admissible.of_supplies fun allowed => allowed.of_alters altered

/-- Leaving out parts on which nothing else depends, one after the other, never makes an accepted
program rejected. -/
theorem pruning_keeps_accepted
    (kinds_given : configuration.settings.itemKinds = kinds.map .string)
    (prunings : Relation.ReflTransGen Prunes program pruned)
    (accepted : program.verdict configuration = .ok none) :
    pruned.verdict configuration = .ok none := by
  rw [verdict_eq_none_iff_admissible kinds_given] at accepted ⊢
  induction prunings with
  | refl => exact accepted
  | tail _ prunes ih => exact prunes.admissible ih

/-- A procedure that calls itself and that nothing else calls. -/
def spin : Procedure :=
  { name := "spin", parameters := [], locals := [], body := [.call "spin" []] }

/-- A robot type that greets in either case. -/
def greeter : RobotType :=
  { name := "sentry"
    locals := [⟨"count", .numeric⟩]
    body := [.ifElse (.boolean true) (.inform (.text "hello") none) (.inform (.text "bye") none)] }

/-- Greeters with a procedure that they do not need. -/
def welcome : Program := { patrol with procedures := [spin], robotTypes := [greeter] }

/-- The same greeters with one branch, no variables and no procedures. -/
def shortWelcome : Program :=
  { welcome with
    procedures := []
    robotTypes :=
      [{ greeter with
        locals := []
        body := [.ifThen (.boolean true) (.inform (.text "hello") none)] }] }

theorem welcome_pruned : Relation.ReflTransGen Prunes welcome shortWelcome := by
  let hello : Statement := .inform (.text "hello") none
  let short : RobotType := { greeter with body := [.ifThen (.boolean true) hello] }
  have calls_nothing : ∀ statement ∈ greeter.body, ¬statement.Calls spin.name := by
    intro statement member
    obtain rfl := List.mem_singleton.mp member
    rintro ⟨arguments, _ | ⟨in_branch, inside⟩⟩
    rcases List.mem_pair.mp in_branch with rfl | rfl <;>
      rcases inside with _ | ⟨in_nothing, _⟩ <;> cases in_nothing
  have uses_nothing : ∀ statement ∈ short.body, ¬statement.Uses "count" := by
    intro statement member
    obtain rfl := List.mem_singleton.mp member
    rintro ⟨inner, _ | ⟨in_branch, inside⟩, mentions⟩
    · simp [Statement.Mentions, Statement.expressions, Expression.Reads, Expression.parts]
        at mentions
    · obtain rfl := List.mem_singleton.mp in_branch
      rcases inside with _ | ⟨in_nothing, _⟩
      · simp [Statement.Mentions, Statement.expressions, hello] at mentions
      · cases in_nothing
  have without_spin : Prunes welcome { welcome with procedures := [] } :=
    @Prunes.procedure welcome [] [] spin rfl (by simp) (by simpa [welcome] using calls_nothing)
  have without_else : Prunes { welcome with procedures := [] }
      { welcome with procedures := [], robotTypes := [short] } := by
    refine .insideRobotType (.alter [] [] ⟨rfl, .body ?_⟩)
    exact @Statement.Prunes.inside [] [] _ _ .otherwise
  have without_count : Prunes { welcome with procedures := [], robotTypes := [short] }
      shortWelcome := by
    refine .insideRobotType (.alter [] [] ⟨rfl, ?_⟩)
    exact @Declared.Prunes.unused short.declared [] [] ⟨"count", .numeric⟩ rfl uses_nothing
  exact .tail (.tail (.single without_spin) without_else) without_count

theorem shortWelcome_accepted :
    Configuration.standard.settings.itemKinds = (["flower", "paper"] : List Text).map .string ∧
      Relation.ReflTransGen Prunes welcome shortWelcome ∧ welcome.verdict .standard = .ok none ∧
      shortWelcome.verdict .standard = .ok none := by
  have kinds_given : Configuration.standard.settings.itemKinds =
      (["flower", "paper"] : List Text).map .string := rfl
  have accepted : welcome.verdict .standard = .ok none := rfl
  exact ⟨kinds_given, welcome_pruned, accepted,
    pruning_keeps_accepted kinds_given welcome_pruned accepted⟩

end Program
end RobotCity
