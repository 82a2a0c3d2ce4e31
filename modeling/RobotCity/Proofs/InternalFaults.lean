import RobotCity.Proofs.Acceptance
import RobotCity.Proofs.Statements.Expressions
import RobotCity.Proofs.TypeFaults

/-!
# Faults of documents

A fault is laid at the door of the document only where an expression shows a word that is unknown to
every check: a query or an operator.  The report says which word it is and where it stands, and nothing
else; no check ever meets a node for which it has no rule.
-/

namespace RobotCity

namespace Expression

/-- An expression shows at its root a word that no check knows; a message names the word. -/
inductive Foreign : Expression → String → Prop
  | query {name : Text} :
    name ∉ positionQueries ++ findingQueries →
    Foreign (.query name) s!"Unknown state query '{name}'"
  | unary {operator : Text} {operand : Expression} :
    operator ∉ (["-", "~"] : List Text) →
    Foreign (.unary operator operand) s!"Unknown unary operator '{operator}'"
  | binary {operator : Text} {left right : Expression} :
    operator ∉ arithmeticOperators ++ relationalOperators ++ logicalOperators ++
      equalityOperators →
    Foreign (.binary operator left right) s!"Unknown binary operator '{operator}'"

/-- A reason why an expression has no type lies in it: a word that no check knows, or something that is
wrong with the program. -/
inductive Explains (expression : Expression) (reason : TypeFault) : Prop
  | foreign {part : Expression} :
    part ∈ expression.parts → part.Foreign reason.message →
    (∀ kind, reason ≠ .notExpression kind) → Explains expression reason
  | ofProgram : reason.internal = false → Explains expression reason

variable {scope : Scope}

/-- A broken rule is that of a word that no check knows, or the program is to blame. -/
theorem Breaks.foreign_or_ordinary {node : Expression} {complaint : Complaint}
    (breaks : node.Breaks scope complaint) :
    node.Foreign complaint.message ∨ complaint.internal = false := by
  cases breaks with
  | unknownQuery unknown => exact .inl (.query unknown)
  | unknownUnary _ unknown => exact .inl (.unary unknown)
  | unknownBinary _ _ unknown => exact .inl (.binary unknown)
  | _ => exact .inr rfl

/-- Inference that fails has a reason in the expression. -/
theorem explains_of_infer {expression : Expression} {reason : TypeFault}
    (stopped : expression.infer scope = .error reason) : expression.Explains reason := by
  obtain ⟨node, first, node_stopped⟩ := firstBreak_of_infer stopped
  obtain ⟨other, stopped_too, -, expected⟩ := first.breaks.infer_eq_error
  cases node_stopped.symm.trans stopped_too
  rcases first.breaks.foreign_or_ordinary with foreign | ordinary
  · exact .foreign (mem_postorder_iff.mp first.node_mem) foreign expected
  · exact .ofProgram ordinary

end Expression

/-! ## Faults of statements -/

/-- The words for a place in so many branches of `sino`. -/
def sinoWords : Nat → String
  | 0 => ""
  | depth + 1 => sinoWords depth ++ ", in the sino branch"

/-- A report is marked as a fault of the document exactly if its category says so. -/
def Report.MarkedByCategory (report : Report) : Prop :=
  report.internal = true ↔ report.category = internalCategory

namespace StatementFault

/-- A fault without the branches of `sino` in which it lies. -/
def innermost : StatementFault → StatementFault
  | .inElse inner => inner.innermost
  | fault => fault

/-- In how many branches of `sino` a fault lies. -/
def depth : StatementFault → Nat
  | .inElse inner => inner.depth + 1
  | _ => 0

/-- Why an expression has no type, if that is the fault. -/
def reason? : StatementFault → Option TypeFault
  | .untypedValue _ reason | .untypedCondition reason | .untypedNotice reason
  | .untypedCoordinate _ _ reason | .untypedMessage _ reason | .untypedArgument _ _ reason =>
    some reason
  | _ => none

/-- A check has met a node for which it has no rule. -/
def MeetsUnknownNode (fault : StatementFault) : Prop :=
  ∃ kind, fault.innermost = .notStatement kind ∨
    fault.innermost.reason? = some (.notExpression kind)

theorem report_eq_withContext (fault : StatementFault) :
    fault.report = fault.innermost.report.withContext (sinoWords fault.depth) := by
  induction fault with
  | inElse inner ih =>
      rw [report, ih, innermost, depth, sinoWords]
      simp only [Report.withContext, String.append_assoc]
  | _ => simp [innermost, depth, sinoWords, Report.withContext]

/-- Something is wrong with the program, and with no type of an expression. -/
def IsOrdinary : StatementFault → Bool
  | .inElse _ | .notStatement _ => false
  | fault => fault.reason?.isNone

theorem report_of_ordinary {fault : StatementFault} (ordinary : fault.IsOrdinary) :
    fault.report.internal = false ∧ fault.report.category ≠ internalCategory := by
  cases fault <;> first
    | exact ⟨rfl, by simp [report, Report.fault, internalCategory]⟩
    | cases ordinary

theorem report_of_reason {fault : StatementFault} {reason : TypeFault}
    (because : fault.reason? = some reason) :
    ∃ category suffix, category ≠ internalCategory ∧ fault.report = reason.report category suffix := by
  cases fault <;> cases because <;> exact ⟨_, _, by simp [internalCategory], rfl⟩

end StatementFault

namespace Statement

/-- A statement stands in another one, under so many branches of `sino`. -/
inductive StandsUnder (inner : Statement) : Nat → Statement → Prop
  | itself : StandsUnder inner 0 inner
  | block {depth : Nat} {part : Statement} {body : List Statement} :
    part ∈ body → StandsUnder inner depth part → StandsUnder inner depth (.block body)
  | ifThen {depth : Nat} {condition : Expression} {body : Statement} :
    StandsUnder inner depth body → StandsUnder inner depth (.ifThen condition body)
  | ifElse {depth : Nat} {condition : Expression} {body otherwise : Statement} :
    StandsUnder inner depth body → StandsUnder inner depth (.ifElse condition body otherwise)
  | otherwise {depth : Nat} {condition : Expression} {body otherwise : Statement} :
    StandsUnder inner depth otherwise →
    StandsUnder inner (depth + 1) (.ifElse condition body otherwise)
  | times {depth : Nat} {count : Expression} {body : Statement} :
    StandsUnder inner depth body → StandsUnder inner depth (.times count body)
  | loop {depth : Nat} {condition : Expression} {body : Statement} :
    StandsUnder inner depth body → StandsUnder inner depth (.loop condition body)

/-- A fault lies in a statement itself: in an expression at which the check looks, or in something
else that is wrong with the program. -/
inductive Shows (statement : Statement) (fault : StatementFault) : Prop
  | untyped {expression : Expression} {reason : TypeFault} :
    expression ∈ statement.examined → expression.Explains reason →
    fault.reason? = some reason → Shows statement fault
  | ordinary : fault.IsOrdinary → Shows statement fault

variable {around : Surroundings} {statement : Statement} {fault : StatementFault}

theorem Shows.innermost (shows : statement.Shows fault) :
    fault.innermost = fault ∧ fault.depth = 0 := by
  cases fault with
  | inElse => cases shows <;> contradiction
  | _ => exact ⟨rfl, rfl⟩

theorem Shows.exists_standsUnder (shows : statement.Shows fault) :
    ∃ inner : Statement, inner.StandsUnder fault.depth statement ∧ inner.Shows fault.innermost := by
  obtain ⟨itself, outside⟩ := shows.innermost
  rw [itself, outside]
  exact ⟨statement, .itself, shows⟩

theorem Shows.of_infer {expression : Expression} {reason : TypeFault}
    (examined : expression ∈ statement.examined)
    (stopped : expression.infer around.scope = .error reason)
    (because : fault.reason? = some reason) : statement.Shows fault :=
  .untyped examined (Expression.explains_of_infer stopped) because

end Statement

namespace Surroundings

variable {around : Surroundings} {statement : Statement} {fault : StatementFault}

theorem shows_of_assignFault? {target : Text} {value : Expression}
    (found : around.assignFault? target value = some fault) :
    (Statement.assign target value).Shows fault := by
  rw [assignFault?] at found
  split at found
  · cases found
    exact .ordinary rfl
  · split at found
    · rename_i stopped
      cases found
      exact .of_infer (List.mem_singleton_self _) stopped rfl
    · split at found <;> cases found
      exact .ordinary rfl

theorem shows_of_conditionFault? {control : Control} {condition : Expression}
    (examined : condition ∈ statement.examined)
    (found : around.conditionFault? control condition = some fault) : statement.Shows fault := by
  rw [conditionFault?] at found
  split at found
  · rename_i stopped
    cases found
    exact .of_infer examined stopped rfl
  · split at found <;> cases found
    exact .ordinary rfl

theorem shows_of_informFault? {notice : Notice} {value : Option Expression}
    (found : around.informFault? notice value = some fault) :
    (Statement.inform notice value).Shows fault := by
  cases notice with
  | text content =>
      cases value with
      | none => cases found
      | some expression =>
          cases inferred : expression.infer around.scope <;>
            simp only [informFault?, Option.map_some, inferred, reduceCtorEq] at found
          cases found
          exact .of_infer (List.mem_singleton_self _) inferred rfl
  | value expression =>
      cases inferred : expression.infer around.scope <;>
        simp only [informFault?, Option.map_some, inferred, reduceCtorEq] at found
      cases found
      exact .of_infer (List.mem_singleton_self _) inferred rfl

theorem shows_of_coordinateFault? {keyword : String} {axis : Axis} {coordinate : Expression}
    (examined : coordinate ∈ statement.examined)
    (found : around.coordinateFault? keyword axis coordinate = some fault) :
    statement.Shows fault := by
  rw [coordinateFault?] at found
  split at found
  · rename_i stopped
    cases found
    exact .of_infer examined stopped rfl
  · split at found <;> cases found
    exact .ordinary rfl

theorem shows_of_cornerFault? {keyword : String} {x y : Expression}
    (x_examined : x ∈ statement.examined) (y_examined : y ∈ statement.examined)
    (found : around.cornerFault? keyword x y = some fault) : statement.Shows fault := by
  rcases Option.or_eq_some_iff.mp found with x_fault | ⟨-, y_fault⟩
  · exact shows_of_coordinateFault? x_examined x_fault
  · exact shows_of_coordinateFault? y_examined y_fault

theorem shows_of_exchangeFault? {mode : MessageMode} {value : Expression} {recipient : Text}
    (found : around.exchangeFault? mode value recipient = some fault) :
    (Statement.exchange mode value recipient).Shows fault := by
  rw [exchangeFault?] at found
  split at found
  · rename_i stopped
    cases found
    exact .of_infer (List.mem_singleton_self _) stopped rfl
  · split at found <;> cases found
    exact .ordinary rfl

theorem shows_of_argumentFault? {procedure : Text} {position : Nat} {parameter : Parameter}
    {argument : Expression} (examined : argument ∈ statement.examined)
    (found : around.argumentFault? procedure position parameter argument = some fault) :
    statement.Shows fault := by
  unfold argumentFault? at found
  split at found
  · split at found
    · cases found
      exact .ordinary rfl
    · split at found <;> cases found
      exact .ordinary rfl
  · cases found
    exact .ordinary rfl
  · split at found
    · rename_i stopped
      cases found
      exact .of_infer examined stopped rfl
    · split at found <;> cases found
      exact .ordinary rfl

theorem shows_of_argumentsFault? {procedure : Text} {position : Nat} {parameters : List Parameter}
    {arguments : List Expression} (examined : ∀ argument ∈ arguments, argument ∈ statement.examined)
    (found : around.argumentsFault? procedure position parameters arguments = some fault) :
    statement.Shows fault := by
  induction parameters generalizing arguments position with
  | nil => cases found
  | cons parameter parameters ih =>
      cases arguments with
      | nil => cases found
      | cons argument arguments =>
          obtain ⟨first_examined, rest_examined⟩ := List.forall_mem_cons.mp examined
          rcases Option.or_eq_some_iff.mp found with first_fault | ⟨-, rest_fault⟩
          · exact shows_of_argumentFault? first_examined first_fault
          · exact ih rest_examined rest_fault

theorem shows_of_callFault? {procedure : Text} {arguments : List Expression}
    (found : around.callFault? procedure arguments = some fault) :
    (Statement.call procedure arguments).Shows fault := by
  rw [callFault?] at found
  split at found
  · cases found
    exact .ordinary rfl
  · dsimp only at found
    split at found
    · cases found
      exact .ordinary rfl
    · split at found
      · cases found
        exact .ordinary rfl
      · exact shows_of_argumentsFault? (fun _ member => member) found

end Surroundings

namespace Statement

variable {around : Surroundings} {fault : StatementFault}

mutual

/-- The fault of a statement lies in a statement that stands in it, under as many branches of `sino`
as the fault tells. -/
theorem exists_shows (statement : Statement) {fault : StatementFault}
    (found : statement.fault? around = some fault) :
    ∃ inner : Statement, inner.StandsUnder fault.depth statement ∧ inner.Shows fault.innermost := by
  cases statement with
  | assign target value => exact (Surroundings.shows_of_assignFault? found).exists_standsUnder
  | block body =>
      obtain ⟨part, member, inner, stands, shows⟩ := exists_shows_of_body body found
      exact ⟨inner, .block member stands, shows⟩
  | ifThen condition body =>
      rw [Statement.fault?] at found
      rcases Option.or_eq_some_iff.mp found with here | ⟨-, inside⟩
      · exact (Surroundings.shows_of_conditionFault? (List.mem_singleton_self _)
          here).exists_standsUnder
      · obtain ⟨inner, stands, shows⟩ := exists_shows body inside
        exact ⟨inner, .ifThen stands, shows⟩
  | ifElse condition body otherwise =>
      rw [Statement.fault?] at found
      rcases Option.or_eq_some_iff.mp found with before | ⟨-, behind⟩
      · rcases Option.or_eq_some_iff.mp before with here | ⟨-, inside⟩
        · exact (Surroundings.shows_of_conditionFault? (List.mem_singleton_self _)
            here).exists_standsUnder
        · obtain ⟨inner, stands, shows⟩ := exists_shows body inside
          exact ⟨inner, .ifElse stands, shows⟩
      · obtain ⟨other, inside, rfl⟩ := Option.map_eq_some_iff.mp behind
        obtain ⟨inner, stands, shows⟩ := exists_shows otherwise inside
        exact ⟨inner, .otherwise stands, shows⟩
  | times count body =>
      rw [Statement.fault?] at found
      rcases Option.or_eq_some_iff.mp found with here | ⟨-, inside⟩
      · exact (Surroundings.shows_of_conditionFault? (List.mem_singleton_self _)
          here).exists_standsUnder
      · obtain ⟨inner, stands, shows⟩ := exists_shows body inside
        exact ⟨inner, .times stands, shows⟩
  | loop condition body =>
      rw [Statement.fault?] at found
      rcases Option.or_eq_some_iff.mp found with here | ⟨-, inside⟩
      · exact (Surroundings.shows_of_conditionFault? (List.mem_singleton_self _)
          here).exists_standsUnder
      · obtain ⟨inner, stands, shows⟩ := exists_shows body inside
        exact ⟨inner, .loop stands, shows⟩
  | inform notice value => exact (Surroundings.shows_of_informFault? found).exists_standsUnder
  | moveTo x y =>
      exact (Surroundings.shows_of_cornerFault? (List.mem_pair.mpr (.inl rfl))
        (List.mem_pair.mpr (.inr rfl)) found).exists_standsUnder
  | exchange mode value recipient =>
      exact (Surroundings.shows_of_exchangeFault? found).exists_standsUnder
  | corner mode x y =>
      exact (Surroundings.shows_of_cornerFault? (List.mem_pair.mpr (.inl rfl))
        (List.mem_pair.mpr (.inr rfl)) found).exists_standsUnder
  | call procedure arguments => exact (Surroundings.shows_of_callFault? found).exists_standsUnder

theorem exists_shows_of_body (body : List Statement) {fault : StatementFault}
    (found : bodyFault? around body = some fault) :
    ∃ part ∈ body, ∃ inner : Statement,
      inner.StandsUnder fault.depth part ∧ inner.Shows fault.innermost := by
  cases body with
  | nil => cases found
  | cons first rest =>
      rcases Option.or_eq_some_iff.mp found with here | ⟨-, later⟩
      · exact ⟨first, List.mem_cons_self, exists_shows first here⟩
      · obtain ⟨part, member, shown⟩ := exists_shows_of_body rest later
        exact ⟨part, List.mem_cons_of_mem _ member, shown⟩

end

/-- A statement that stands in a body under so many branches of `sino` shows a word that no check
knows, in an expression at which the check looks; a message names the word. -/
def BodyForeign (body : List Statement) (depth : Nat) (message : String) : Prop :=
  ∃ outer ∈ body, ∃ inner : Statement, inner.StandsUnder depth outer ∧
    ∃ expression ∈ inner.examined, ∃ part ∈ expression.parts, part.Foreign message

theorem Shows.known_node {statement : Statement} (shows : statement.Shows fault) (kind : String) :
    fault ≠ .notStatement kind ∧ fault.reason? ≠ some (.notExpression kind) := by
  cases shows with
  | @untyped expression reason _ explains because =>
      refine ⟨?_, ?_⟩
      · rintro rfl
        cases because
      · rw [because, Ne, Option.some.injEq]
        rintro rfl
        cases explains with
        | foreign _ _ expected => exact expected kind rfl
        | ofProgram ordinary => cases ordinary
  | ordinary ordinary =>
      refine ⟨?_, ?_⟩
      · rintro rfl
        cases ordinary
      · cases fault <;> simp_all [StatementFault.IsOrdinary, StatementFault.reason?]

theorem Shows.report {statement : Statement} (shows : statement.Shows fault) :
    fault.report.MarkedByCategory ∧ (fault.report.internal = true →
      ∃ expression ∈ statement.examined, ∃ part ∈ expression.parts,
        part.Foreign fault.report.context) := by
  cases shows with
  | @untyped expression reason examined explains because =>
      obtain ⟨category, suffix, differs, reported⟩ := StatementFault.report_of_reason because
      rw [reported, TypeFault.report, Complaint.report, TypeFault.complaint]
      split
      · rename_i internal
        refine ⟨iff_of_true rfl rfl, fun _ => ?_⟩
        cases explains with
        | foreign member shown _ => exact ⟨expression, examined, _, member, shown⟩
        | ofProgram ordinary =>
            rw [ordinary] at internal
            cases internal
      · exact ⟨iff_of_false Bool.false_ne_true differs, nofun⟩
  | ordinary ordinary =>
      obtain ⟨external, differs⟩ := StatementFault.report_of_ordinary ordinary
      rw [Report.MarkedByCategory, external]
      exact ⟨iff_of_false Bool.false_ne_true differs, nofun⟩

end Statement

/-- A fault of a body is reported as it is: it comes from no node without a rule, its category says
whether it lies in the document, and if so, the report names a word that no check knows and the branches
of `sino` in which it stands, and nothing else. -/
structure StatementFault.ReportedOf (body : List Statement) (fault : StatementFault) : Prop where
  no_unknown_node : ¬fault.MeetsUnknownNode
  marked : fault.report.MarkedByCategory
  blamed : fault.report.internal = true → ∃ depth message,
    Statement.BodyForeign body depth message ∧ fault.report.context = message ++ sinoWords depth

theorem Statement.reportedOf_of_bodyFault? {around : Surroundings} {body : List Statement}
    {fault : StatementFault} (found : bodyFault? around body = some fault) :
    fault.ReportedOf body := by
  obtain ⟨outer, member, inner, stands, shows⟩ := exists_shows_of_body body found
  obtain ⟨marked, blamed⟩ := shows.report
  have reported := fault.report_eq_withContext
  refine ⟨fun ⟨kind, unknown⟩ => ?_, ?_, fun internal => ?_⟩
  · exact unknown.elim (shows.known_node kind).1 (shows.known_node kind).2
  · rw [reported]
    exact marked
  · rw [reported] at internal ⊢
    exact ⟨fault.depth, fault.innermost.report.context,
      ⟨outer, member, inner, stands, blamed internal⟩, rfl⟩

/-! ## Faults of programs -/

/-- The fault of a statement that a fault of a program comes from. -/
def ProgramFault.statement? : ProgramFault → Option StatementFault
  | .procedures (.body _ fault) | .robotTypes (.body _ fault) => some fault
  | _ => none

namespace Program

variable {configuration : Configuration} {program : Program}

/-- A stage says of a program that a word in it is unknown to every check: the context names the word,
the branches of `sino` in which it stands and the declaration to which the body belongs. -/
inductive BlamesWord (program : Program) : Stage → String → Prop
  | procedure {procedure : Procedure} {depth : Nat} {message : String} :
    procedure ∈ program.procedures → Statement.BodyForeign procedure.body depth message →
    BlamesWord program .procedures
      (message ++ sinoWords depth ++ s!", in the declaration of procedure '{procedure.name}'")
  | robotType {robotType : RobotType} {depth : Nat} {message : String} :
    robotType ∈ program.robotTypes → Statement.BodyForeign robotType.body depth message →
    BlamesWord program .robotTypes
      (message ++ sinoWords depth ++ s!", in the declaration of robot type '{robotType.name}'")

/-- A fault of a program comes from no node without a rule, its category says whether it lies in the
document, and if so, the report blames a word that no check knows. -/
structure Reports (program : Program) (fault : ProgramFault) : Prop where
  no_unknown_node : ∀ inner, fault.statement? = some inner → ¬inner.MeetsUnknownNode
  marked : fault.report.MarkedByCategory
  blamed : fault.report.internal = true → program.BlamesWord fault.stage fault.report.context

/-- Faults outside of bodies lie in the program. -/
theorem Reports.of_fault {fault : ProgramFault} {category context : String}
    (outside : fault.statement? = none) (reported : fault.report = .fault category context)
    (differs : category ≠ internalCategory) : program.Reports fault where
  no_unknown_node inner inside := by
    rw [outside] at inside
    cases inside
  marked := by
    rw [reported]
    exact iff_of_false Bool.false_ne_true differs
  blamed internal := by
    rw [reported] at internal
    cases internal

end Program

/-- Only the check of its body finds a fault in the body of a procedure. -/
theorem Procedure.body_of_fault? {setting : Setting} {strict : Bool} {procedure : Procedure}
    {name : Text} {inner : StatementFault}
    (found : procedure.fault? setting strict = some (.body name inner)) :
    procedure.name = name ∧
      Statement.bodyFault? (setting.around procedure.scope) procedure.body = some inner := by
  rcases Option.or_eq_some_iff.mp found with in_parameters | ⟨-, found⟩
  · obtain ⟨_, -, other⟩ := Option.map_eq_some_iff.mp in_parameters
    cases other
  rcases Option.or_eq_some_iff.mp found with in_locals | ⟨-, found⟩
  · obtain ⟨_, -, other⟩ := Option.map_eq_some_iff.mp in_locals
    cases other
  rcases Option.or_eq_some_iff.mp found with hidden | ⟨-, found⟩
  · split at hidden
    · obtain ⟨_, -, other⟩ := Option.map_eq_some_iff.mp hidden
      cases other
    · cases hidden
  · obtain ⟨_, inside, same⟩ := Option.map_eq_some_iff.mp found
    cases same
    exact ⟨rfl, inside⟩

theorem RobotType.body_of_fault? {setting : Setting} {robotType : RobotType} {name : Text}
    {inner : StatementFault} (found : robotType.fault? setting = some (.body name inner)) :
    robotType.name = name ∧
      Statement.bodyFault? (setting.around robotType.scope) robotType.body = some inner := by
  rcases Option.or_eq_some_iff.mp found with in_locals | ⟨-, found⟩
  · obtain ⟨_, -, other⟩ := Option.map_eq_some_iff.mp in_locals
    cases other
  · obtain ⟨_, inside, same⟩ := Option.map_eq_some_iff.mp found
    cases same
    exact ⟨rfl, inside⟩

namespace Program

variable {configuration : Configuration} {program : Program}

/-- The fault of a body is reported with the words that name its declaration behind it. -/
theorem Reports.of_body {fault : ProgramFault} {inner : StatementFault} {body : List Statement}
    {location : String} (inside : fault.statement? = some inner)
    (reported : fault.report = inner.report.withContext location)
    (told : inner.ReportedOf body)
    (blames : ∀ depth message, Statement.BodyForeign body depth message →
      program.BlamesWord fault.stage (message ++ sinoWords depth ++ location)) :
    program.Reports fault where
  no_unknown_node other there := by
    rw [inside] at there
    cases there
    exact told.no_unknown_node
  marked := by
    rw [reported]
    exact told.marked
  blamed internal := by
    rw [reported] at internal ⊢
    obtain ⟨depth, message, foreign, context_eq⟩ := told.blamed internal
    rw [Report.withContext, context_eq]
    exact blames depth message foreign

theorem reports_procedures {robots : List Text} {everyone : Option Text} {strict : Bool}
    {fault : ProcedureFault}
    (found : proceduresFault? program.procedures robots everyone strict = some fault) :
    program.Reports (.procedures fault) := by
  cases fault with
  | body name inner =>
      rw [proceduresFault?] at found
      split at found
      · cases found
      · obtain ⟨procedure, member, found⟩ := List.exists_of_findSome?_eq_some found
        obtain ⟨rfl, inside⟩ := Procedure.body_of_fault? found
        exact .of_body rfl rfl (Statement.reportedOf_of_bodyFault? inside)
          fun _ _ foreign => .procedure member foreign
  | _ => exact .of_fault rfl rfl (by simp [internalCategory])

theorem reports_robotTypes {procedures : List Procedure} {robots : List Text}
    {everyone : Option Text} {fault : RobotTypeFault}
    (found : robotTypesFault? program.robotTypes procedures robots everyone = some fault) :
    program.Reports (.robotTypes fault) := by
  cases fault with
  | body name inner =>
      rw [robotTypesFault?] at found
      split at found
      · cases found
      · obtain ⟨robotType, member, found⟩ := List.exists_of_findSome?_eq_some found
        obtain ⟨rfl, inside⟩ := RobotType.body_of_fault? found
        exact .of_body rfl rfl (Statement.reportedOf_of_bodyFault? inside)
          fun _ _ foreign => .robotType member foreign
  | _ => exact .of_fault rfl rfl (by simp [internalCategory])

/-- The fault that some stages in a row find is the fault of one of them. -/
theorem exists_stage_of_faultAmong? {stages : List Stage} {fault : ProgramFault}
    (found : program.faultAmong? configuration stages = .ok (some fault)) :
    ∃ stage ∈ stages, program.stageFault? configuration stage = .ok (some fault) := by
  induction stages with
  | nil => cases found
  | cons stage rest ih =>
      rw [faultAmong?] at found
      cases outcome : program.stageFault? configuration stage with
      | error error =>
          rw [outcome] at found
          cases found
      | ok here =>
          rw [outcome] at found
          cases here with
          | some other =>
              cases found
              exact ⟨stage, List.mem_cons_self, outcome⟩
          | none =>
              obtain ⟨later, member, there⟩ := ih found
              exact ⟨later, List.mem_cons_of_mem _ member, there⟩

/-- Every fault that a stage finds is reported as it is. -/
theorem reports_of_stageFault? {stage : Stage} {fault : ProgramFault}
    (found : program.stageFault? configuration stage = .ok (some fault)) :
    program.Reports fault := by
  cases stage with
  | areas =>
      obtain ⟨inner, -, rfl⟩ := (lifted_eq_some_iff _ _ _).mp found
      exact .of_fault rfl rfl (by simp [internalCategory])
  | robots =>
      obtain ⟨inner, -, rfl⟩ := Option.map_eq_some_iff.mp (Except.ok.inj found)
      exact .of_fault rfl rfl (by simp [internalCategory])
  | setup =>
      obtain ⟨inner, -, rfl⟩ := (lifted_eq_some_iff _ _ _).mp found
      refine .of_fault rfl rfl ?_
      cases inner <;> simp [SetupFault.category, internalCategory]
  | procedures =>
      obtain ⟨inner, inside, rfl⟩ := Option.map_eq_some_iff.mp (Except.ok.inj found)
      exact reports_procedures inside
  | robotTypes =>
      obtain ⟨inner, inside, rfl⟩ := Option.map_eq_some_iff.mp (Except.ok.inj found)
      exact reports_robotTypes inside

/-- Where only texts stand for kinds of items every program gets a verdict, unless the check breaks off
over a bound of the city that cannot be shown.  Whatever fault is found is reported as it is: no check
meets a node for which it has no rule, a report is marked as the fault of a document exactly if its
category says so, and such a report comes from the check of a procedure or a robot type and names a word
that no check knows, the branches of `sino` in which the word stands and the declaration to which the body
belongs. -/
theorem faults_reported {kinds : List Text}
    (kinds_given : configuration.settings.itemKinds = kinds.map .string) (program : Program) :
    (∃ found, program.fault? configuration = .ok found ∧
      program.verdict configuration = .ok (found.map ProgramFault.report) ∧
      ∀ fault, found = some fault → program.Reports fault) ∨
    (¬configuration.grid.Showable ∧
      program.verdict configuration = .error (.bound .longInteger)) := by
  by_cases showable : configuration.grid.Showable
  case neg => exact .inr ⟨showable, verdict_of_not_showable showable⟩
  obtain ⟨verdict, decided⟩ : ∃ verdict, program.verdict configuration = .ok verdict :=
    verdict_total showable kinds_given
  obtain ⟨found, stopped, same⟩ := bind_eq_ok decided
  cases same
  refine .inl ⟨found, stopped, decided, ?_⟩
  rintro fault rfl
  obtain ⟨stage, -, there⟩ := exists_stage_of_faultAmong? stopped
  exact reports_of_stageFault? there

end Program

/-- A patrol whose procedure shows a word that no check knows, in a branch of `sino`. -/
def garbled : Program :=
  { patrol with
    procedures :=
      [ { advance with
          body :=
            [ .ifElse (.boolean true) (.block [])
                (.call "advance" [.variable "count", .binary "%" (.integer 1) (.integer 2)]) ] } ] }

/-- The report on a garbled patrol names the word, the branch and the procedure. -/
theorem garbled_reported :
    garbled.verdict .standard = .ok (some (.broken ("Unknown binary operator '%'" ++
        ", in the sino branch" ++ ", in the declaration of procedure 'advance'"))) ∧
      garbled.BlamesWord .procedures ("Unknown binary operator '%'" ++
        ", in the sino branch" ++ ", in the declaration of procedure 'advance'") := by
  have kinds_given :
      Configuration.standard.settings.itemKinds = (["flower", "paper"] : List Text).map .string := rfl
  obtain ⟨found, stopped, decided, reports⟩ | ⟨long, -⟩ :=
    Program.faults_reported kinds_given garbled
  case inr => exact absurd (by decide) long
  let fault : ProgramFault :=
    .procedures (.body "advance" (.inElse (.untypedArgument 2 "advance" (.unknownBinary "%"))))
  have computed : garbled.fault? .standard = .ok (some fault) := rfl
  cases stopped.symm.trans computed
  exact ⟨decided, (reports fault rfl).blamed rfl⟩

end RobotCity
