import Mathlib.Logic.Relation
import RobotCity.Proofs.InternalFaults

/-!
# Checks in the order of the source

A statement is made of checks that stand one behind the other.  The first of them that fails is what
the statement is reported for, and the report names every branch of a `sino` in which the check stands.
Where the blocks begin and end makes no difference.
-/

namespace RobotCity

/-- A check that is made of no other ones. -/
inductive Check where
  | assign (target : Text) (value : Expression)
  /-- The condition or count of a control statement. -/
  | guard (control : Control) (condition : Expression)
  | inform (notice : Notice) (value : Option Expression)
  | moveTo (x y : Expression)
  | exchange (mode : MessageMode) (value : Expression) (recipient : Text)
  | corner (mode : CornerMode) (x y : Expression)
  | call (procedure : Text) (arguments : List Expression)

/-- The fault that a check finds. -/
def Check.fault? (around : Surroundings) : Check → Option StatementFault
  | .assign target value => around.assignFault? target value
  | .guard control condition => around.conditionFault? control condition
  | .inform notice value => around.informFault? notice value
  | .moveTo x y => around.cornerFault? "Pos" x y
  | .exchange mode value recipient => around.exchangeFault? mode value recipient
  | .corner mode x y => around.cornerFault? mode.keyword x y
  | .call procedure arguments => around.callFault? procedure arguments

/-- A check where it stands. -/
structure PlacedCheck where
  /-- In how many branches of `sino` it stands. -/
  depth : Nat
  check : Check

namespace PlacedCheck

/-- A check that stands in no branch of `sino`. -/
def outside (check : Check) : PlacedCheck :=
  { depth := 0, check }

/-- A check in one more branch of `sino`. -/
def inSino (placed : PlacedCheck) : PlacedCheck :=
  { placed with depth := placed.depth + 1 }

/-- What a check reports from where it stands. -/
def report? (around : Surroundings) (placed : PlacedCheck) : Option Report :=
  (placed.check.fault? around).map fun fault => fault.report.withContext (sinoWords placed.depth)

variable {around : Surroundings} {placed : PlacedCheck}

theorem report?_eq_none_iff :
    placed.report? around = none ↔ placed.check.fault? around = none :=
  Option.map_eq_none_iff

theorem report?_outside (check : Check) :
    (outside check).report? around = (check.fault? around).map StatementFault.report := by
  simp [report?, outside, sinoWords, Report.withContext]

theorem report?_inSino (placed : PlacedCheck) :
    placed.inSino.report? around =
      (placed.report? around).map (Report.withContext ", in the sino branch") := by
  simp [report?, inSino, sinoWords, Report.withContext, Function.comp_def, String.append_assoc]

end PlacedCheck

namespace Statement

mutual

/-- The checks of a statement in the order of the source. -/
def checks : Statement → List PlacedCheck
  | .assign target value => [.outside (.assign target value)]
  | .block body => bodyChecks body
  | .ifThen condition body => .outside (.guard .branch condition) :: body.checks
  | .ifElse condition body otherwise =>
    .outside (.guard .branch condition) ::
      (body.checks ++ otherwise.checks.map PlacedCheck.inSino)
  | .times count body => .outside (.guard .times count) :: body.checks
  | .loop condition body => .outside (.guard .loop condition) :: body.checks
  | .inform notice value => [.outside (.inform notice value)]
  | .moveTo x y => [.outside (.moveTo x y)]
  | .exchange mode value recipient => [.outside (.exchange mode value recipient)]
  | .corner mode x y => [.outside (.corner mode x y)]
  | .call procedure arguments => [.outside (.call procedure arguments)]

/-- The checks of a body in the order of the source. -/
def bodyChecks : List Statement → List PlacedCheck
  | [] => []
  | first :: rest => first.checks ++ bodyChecks rest

end

theorem bodyChecks_eq_flatMap (body : List Statement) : bodyChecks body = body.flatMap checks := by
  induction body with
  | nil => rfl
  | cons first rest ih => rw [bodyChecks, ih, List.flatMap_cons]

end Statement

/-- The first check of a list that fails reports a fault, with the branches of `sino` in which it
stands added to the context. -/
def FirstFailure (around : Surroundings) (checks : List PlacedCheck) (report : Report) : Prop :=
  ∃ before placed after fault, checks = before ++ placed :: after ∧
    (∀ earlier ∈ before, earlier.check.fault? around = none) ∧
    placed.check.fault? around = some fault ∧
    report =
      { category := fault.report.category
        context := fault.report.context ++ sinoWords placed.depth
        internal := fault.report.internal }

/-- An outcome is decided by checks: nothing is found if all of them pass, else what the first one that
fails reports. -/
structure DecidedBy (around : Surroundings) (outcome : Option StatementFault)
    (checks : List PlacedCheck) : Prop where
  accepts : outcome = none ↔ ∀ placed ∈ checks, placed.check.fault? around = none
  reports : ∀ report, outcome.map StatementFault.report = some report ↔
    FirstFailure around checks report

variable {around : Surroundings}

theorem findSome?_report?_eq_some_iff {checks : List PlacedCheck} {report : Report} :
    checks.findSome? (PlacedCheck.report? around) = some report ↔
      FirstFailure around checks report := by
  rw [List.findSome?_eq_some_iff]
  constructor
  · rintro ⟨before, placed, after, split_here, reported, earlier⟩
    obtain ⟨fault, found, rfl⟩ := Option.map_eq_some_iff.mp reported
    exact ⟨before, placed, after, fault, split_here,
      fun passed member => PlacedCheck.report?_eq_none_iff.mp (earlier passed member), found, rfl⟩
  · rintro ⟨before, placed, after, fault, split_here, earlier, found, rfl⟩
    exact ⟨before, placed, after, split_here, Option.map_eq_some_iff.mpr ⟨fault, found, rfl⟩,
      fun passed member => PlacedCheck.report?_eq_none_iff.mpr (earlier passed member)⟩

theorem DecidedBy.of_scan {checks : List PlacedCheck} {outcome : Option StatementFault}
    (scanned : outcome.map StatementFault.report = checks.findSome? (PlacedCheck.report? around)) :
    DecidedBy around outcome checks where
  accepts := by
    rw [← Option.map_eq_none_iff (f := StatementFault.report), scanned, List.findSome?_eq_none_iff]
    exact forall₂_congr fun placed _ => PlacedCheck.report?_eq_none_iff
  reports report := by rw [scanned, findSome?_report?_eq_some_iff]

namespace Statement

/-- A scan that starts with the condition of a control statement. -/
theorem findSome?_guard_cons (control : Control) (condition : Expression)
    (rest : List PlacedCheck) :
    (PlacedCheck.outside (.guard control condition) :: rest).findSome?
        (PlacedCheck.report? around) =
      ((around.conditionFault? control condition).map StatementFault.report).or
        (rest.findSome? (PlacedCheck.report? around)) := by
  rw [List.findSome?_cons, PlacedCheck.report?_outside, Check.fault?]
  cases around.conditionFault? control condition <;> rfl

theorem findSome?_outside (check : Check) :
    [PlacedCheck.outside check].findSome? (PlacedCheck.report? around) =
      (check.fault? around).map StatementFault.report := by
  rw [List.findSome?_singleton, PlacedCheck.report?_outside]

/-- A scan of checks in one more branch of `sino` says so. -/
theorem findSome?_inSino (checks : List PlacedCheck) :
    (checks.map PlacedCheck.inSino).findSome? (PlacedCheck.report? around) =
      (checks.findSome? (PlacedCheck.report? around)).map
        (Report.withContext ", in the sino branch") := by
  rw [List.findSome?_map, List.map_findSome?]
  congr 1
  funext placed
  exact placed.report?_inSino

theorem report_inElse (outcome : Option StatementFault) :
    (outcome.map .inElse).map StatementFault.report =
      (outcome.map StatementFault.report).map (Report.withContext ", in the sino branch") := by
  cases outcome <;> rfl

mutual

/-- A statement is reported for what a scan of its checks finds first. -/
theorem report_eq_findSome?_checks (around : Surroundings) : ∀ statement : Statement,
    (statement.fault? around).map StatementFault.report =
      statement.checks.findSome? (PlacedCheck.report? around)
  | .block body => by rw [fault?, checks, report_eq_findSome?_bodyChecks around body]
  | .ifThen _ body | .times _ body | .loop _ body => by
    rw [fault?, checks, findSome?_guard_cons, Option.map_or, report_eq_findSome?_checks around body]
  | .ifElse condition body otherwise => by
    rw [fault?, checks, findSome?_guard_cons, List.findSome?_append, findSome?_inSino,
      Option.map_or, Option.map_or, report_inElse, Option.or_assoc,
      report_eq_findSome?_checks around body, report_eq_findSome?_checks around otherwise]
  | .assign .. | .inform .. | .moveTo .. | .exchange .. | .corner .. | .call .. => by
    rw [fault?, checks, findSome?_outside, Check.fault?]

theorem report_eq_findSome?_bodyChecks (around : Surroundings) : ∀ body : List Statement,
    (bodyFault? around body).map StatementFault.report =
      (bodyChecks body).findSome? (PlacedCheck.report? around)
  | [] => rfl
  | first :: rest => by
    rw [bodyFault?, bodyChecks, Option.map_or, report_eq_findSome?_checks around first,
      report_eq_findSome?_bodyChecks around rest, List.findSome?_append]

end

/-- A statement with what is in one block, which stands in a block itself, in the place of the inner
block, at any depth. -/
inductive Splices : Statement → Statement → Prop
  | block (front inner back : List Statement) :
    Splices (.block (front ++ .block inner :: back)) (.block (front ++ inner ++ back))
  | inside {front back : List Statement} {statement spliced : Statement} :
    Splices statement spliced →
    Splices (.block (front ++ statement :: back)) (.block (front ++ spliced :: back))
  | ifThen {condition : Expression} {body spliced : Statement} :
    Splices body spliced → Splices (.ifThen condition body) (.ifThen condition spliced)
  | ifElseBody {condition : Expression} {body spliced otherwise : Statement} :
    Splices body spliced →
    Splices (.ifElse condition body otherwise) (.ifElse condition spliced otherwise)
  | ifElseOtherwise {condition : Expression} {body otherwise spliced : Statement} :
    Splices otherwise spliced →
    Splices (.ifElse condition body otherwise) (.ifElse condition body spliced)
  | times {count : Expression} {body spliced : Statement} :
    Splices body spliced → Splices (.times count body) (.times count spliced)
  | loop {condition : Expression} {body spliced : Statement} :
    Splices body spliced → Splices (.loop condition body) (.loop condition spliced)

/-- A body with what is in one of its blocks, at any depth, in the place of the block. -/
def BodySplices (body spliced : List Statement) : Prop :=
  (Statement.block body).Splices (.block spliced)

theorem checks_block_append (front back : List Statement) (statement : Statement) :
    (Statement.block (front ++ statement :: back)).checks =
      bodyChecks front ++ statement.checks ++ bodyChecks back := by
  simp [checks, bodyChecks_eq_flatMap]

/-- The checks do not see where a block begins and ends. -/
theorem Splices.checks_eq {statement spliced : Statement} (splices : statement.Splices spliced) :
    spliced.checks = statement.checks := by
  induction splices with
  | block front inner back => simp [checks, bodyChecks_eq_flatMap]
  | inside _ ih => rw [checks_block_append, checks_block_append, ih]
  | ifElseBody _ ih | ifElseOtherwise _ ih => simp only [checks, ih]
  | ifThen _ ih | times _ ih | loop _ ih => simp only [checks, ih]

theorem checks_eq_of_splicings {statement spliced : Statement}
    (splicings : Relation.ReflTransGen Splices statement spliced) :
    spliced.checks = statement.checks := by
  induction splicings with
  | refl => rfl
  | tail _ splices ih => rw [splices.checks_eq, ih]

theorem bodyChecks_eq_of_splicings {body spliced : List Statement}
    (splicings : Relation.ReflTransGen BodySplices body spliced) :
    bodyChecks spliced = bodyChecks body := by
  have of_blocks := splicings.lift Statement.block fun _ _ splices => splices
  simpa only [checks] using checks_eq_of_splicings of_blocks

/-- A statement, and a body as well, is accepted exactly if all of its checks pass, and else reported for
the first one that fails, in the words of that check and with the branches of `sino` in which it stands
added.  Blocks that are spliced into the lists around them, any number of them and at any depth, do not
change the verdict. -/
theorem first_failing_check_is_reported (around : Surroundings) :
    (∀ statement : Statement, DecidedBy around (statement.fault? around) statement.checks) ∧
      (∀ body, DecidedBy around (bodyFault? around body) (bodyChecks body)) ∧
      (∀ statement spliced : Statement, Relation.ReflTransGen Splices statement spliced →
        (spliced.fault? around).map StatementFault.report =
          (statement.fault? around).map StatementFault.report) ∧
      ∀ body spliced : List Statement, Relation.ReflTransGen BodySplices body spliced →
        (bodyFault? around spliced).map StatementFault.report =
          (bodyFault? around body).map StatementFault.report := by
  refine ⟨fun statement => .of_scan (report_eq_findSome?_checks around statement),
    fun body => .of_scan (report_eq_findSome?_bodyChecks around body), ?_, ?_⟩
  · intro statement spliced splicings
    rw [report_eq_findSome?_checks, report_eq_findSome?_checks, checks_eq_of_splicings splicings]
  · intro body spliced splicings
    rw [report_eq_findSome?_bodyChecks, report_eq_findSome?_bodyChecks,
      bodyChecks_eq_of_splicings splicings]

/-- A variable that nobody declared in a branch of `sino` inside another one, and a loop behind it that
is wrong as well. -/
def haunted : Statement :=
  .ifElse (.boolean true) (.inform (.text "dark") none) (.block [
    .block [.ifElse (.boolean false) (.block []) (.assign "ghost" (.integer 1))],
    .loop (.integer 2) (.block [])])

/-- The same without the inner block. -/
def openHaunted : Statement :=
  .ifElse (.boolean true) (.inform (.text "dark") none) (.block [
    .ifElse (.boolean false) (.block []) (.assign "ghost" (.integer 1)),
    .loop (.integer 2) (.block [])])

/-- Both branches are named, and the loop is not reached. -/
theorem haunted_reported :
    FirstFailure ⟨⟨[]⟩, [], ⟨[]⟩, none⟩ haunted.checks
        { category := "Invalid value assignment"
          context := "Invalid variable, 'ghost' was not declared, in the sino branch" ++
            ", in the sino branch"
          internal := false } ∧
      Relation.ReflTransGen Splices haunted openHaunted ∧
      (openHaunted.fault? ⟨⟨[]⟩, [], ⟨[]⟩, none⟩).map StatementFault.report =
        (haunted.fault? ⟨⟨[]⟩, [], ⟨[]⟩, none⟩).map StatementFault.report := by
  have reported := first_failing_check_is_reported ⟨⟨[]⟩, [], ⟨[]⟩, none⟩
  have splicings : Relation.ReflTransGen Splices haunted openHaunted :=
    .single (.ifElseOtherwise (.block [] _ _))
  exact ⟨((reported.1 haunted).reports _).mp rfl, splicings, reported.2.2.1 _ _ splicings⟩

end Statement
end RobotCity
