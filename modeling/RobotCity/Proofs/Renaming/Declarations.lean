import RobotCity.Proofs.Outcomes
import RobotCity.Proofs.Renaming.Basic

/-!
# Renamed declarations

Tables of names, types, statements and declarations are checked the same way under new names: what is
found in a renamed part is what was found in the part before, renamed.
-/

namespace RobotCity

namespace NameTable

variable {α β : Type}

/-- A table under new names, with its values altered. -/
def rename (name : Text → Text) (value : α → β) (table : NameTable α) : NameTable β :=
  ⟨table.entries.map fun entry => (name entry.1, value entry.2)⟩

variable {name : Text → Text}

theorem lookup_map (injective : Function.Injective name) (value : α → β)
    (entries : List (Text × α)) (wanted : Text) :
    (entries.map fun entry => (name entry.1, value entry.2)).lookup (name wanted) =
      (entries.lookup wanted).map value := by
  induction entries with
  | nil => rfl
  | cons entry rest ih =>
      rw [List.map_cons, lookup_cons_eq_if, lookup_cons_eq_if, ih]
      by_cases same : wanted = entry.1
      · simp [same]
      · simp [same, injective.eq_iff]

theorem find?_rename (injective : Function.Injective name) (value : α → β) (table : NameTable α)
    (wanted : Text) :
    (table.rename name value).find? (name wanted) = (table.find? wanted).map value :=
  lookup_map injective value table.entries wanted

theorem rename_declare (injective : Function.Injective name) (value : α → β) (table : NameTable α)
    (wanted : Text) (given : α) :
    (table.declare wanted given).rename name value =
      (table.rename name value).declare (name wanted) (value given) := by
  rw [declare, declare, find?_rename injective]
  cases table.find? wanted <;> simp [rename]

theorem rename_set (injective : Function.Injective name) (value : α → β) (table : NameTable α)
    (wanted : Text) (given : α) :
    (table.set wanted given).rename name value =
      (table.rename name value).set (name wanted) (value given) := by
  obtain ⟨entries⟩ := table
  simp only [set, rename, mk.injEq]
  induction entries with
  | nil => rfl
  | cons entry rest ih =>
      by_cases same : entry.1 = wanted
      · simp [setEntry, same]
      · simp [setEntry, same, injective.eq_iff, ih]

/-- Entering renamed entries renames the table. -/
theorem rename_foldl {enter : NameTable α → Text → α → NameTable α}
    {enter' : NameTable β → Text → β → NameTable β} {value : α → β}
    (step : ∀ table wanted given, (enter table wanted given).rename name value =
      enter' (table.rename name value) (name wanted) (value given))
    (entries : List (Text × α)) (table : NameTable α) :
    (entries.foldl (fun table entry => enter table entry.1 entry.2) table).rename name value =
      (entries.map fun entry => (name entry.1, value entry.2)).foldl
        (fun table entry => enter' table entry.1 entry.2) (table.rename name value) := by
  induction entries generalizing table with
  | nil => rfl
  | cons entry rest ih => rw [List.foldl_cons, ih, step, List.map_cons, List.foldl_cons]

theorem rename_ofFirst (injective : Function.Injective name) (value : α → β)
    (entries : List (Text × α)) :
    (ofFirst entries).rename name value =
      ofFirst (entries.map fun entry => (name entry.1, value entry.2)) :=
  rename_foldl (rename_declare injective value) entries empty

theorem rename_ofLast (injective : Function.Injective name) (value : α → β)
    (entries : List (Text × α)) :
    (ofLast entries).rename name value =
      ofLast (entries.map fun entry => (name entry.1, value entry.2)) :=
  rename_foldl (rename_set injective value) entries empty

end NameTable

theorem repetitionFrom?_map {name : Text → Text} (injective : Function.Injective name)
    (seen : NameTable Nat) (position : Nat) (listed : List Text) :
    repetitionFrom? (seen.rename name id) position (listed.map name) =
      (repetitionFrom? seen position listed).map (·.rename name) := by
  induction listed generalizing seen position with
  | nil => rfl
  | cons first rest ih =>
      rw [List.map_cons, repetitionFrom?, repetitionFrom?, NameTable.find?_rename injective]
      cases seen.find? first with
      | some earlier => rfl
      | none =>
          simp only [Option.map_none]
          rw [← ih, NameTable.rename_declare injective]
          rfl

/-- The names of renamed items repeat where the old ones did. -/
theorem repetition?_rename {α : Type} {name : Text → Text} (injective : Function.Injective name)
    (alter : α → α) (named : α → Text) (renamed : ∀ item, named (alter item) = name (named item))
    (items : List α) :
    repetition? ((items.map alter).map named) =
      (repetition? (items.map named)).map (·.rename name) := by
  have names_renamed : (items.map alter).map named = (items.map named).map name := by
    simp [renamed]
  rw [names_renamed]
  exact repetitionFrom?_map injective .empty 1 (items.map named)

/-- A scope under new names. -/
def Scope.rename (names : Renaming) (scope : Scope) : Scope :=
  NameTable.rename names.ofVariable id scope

theorem unaryType_rename (names : Renaming) (operator operand : Text) :
    (unaryType operator operand).mapError (·.rename names) = unaryType operator operand := by
  unfold unaryType
  repeat' split
  all_goals rfl

theorem binaryType_rename (names : Renaming) (operator left right : Text) :
    (binaryType operator left right).mapError (·.rename names) = binaryType operator left right := by
  unfold binaryType
  repeat' split
  all_goals rfl

/-- A renamed expression has the type that it had. -/
theorem Expression.infer_rename (names : Renaming) (scope : Scope) (expression : Expression) :
    (expression.rename names).infer (scope.rename names) =
      (expression.infer scope).mapError (·.rename names) := by
  induction expression with
  | integer value => rfl
  | boolean value => rfl
  | «variable» name =>
      simp only [rename, infer, Scope.rename, NameTable.find?_rename names.variable_injective]
      cases NameTable.find? scope name <;> rfl
  | query name =>
      simp only [rename, infer]
      cases queryType? name <;> rfl
  | unary operator operand ih =>
      simp only [rename, infer, ih]
      cases operand.infer scope with
      | error fault => rfl
      | ok type => exact (unaryType_rename names operator type).symm
  | binary operator left right left_ih right_ih =>
      simp only [rename, infer, left_ih, right_ih]
      cases left.infer scope with
      | error fault => rfl
      | ok leftType =>
          cases right.infer scope with
          | error fault => rfl
          | ok rightType => exact (binaryType_rename names operator leftType rightType).symm

/-! ## Statements -/

/-- A signature under new names. -/
def Signature.rename (names : Renaming) (signature : Signature) : Signature :=
  { name := names.ofProcedure signature.name
    parameters := signature.parameters.map (·.rename names) }

namespace Surroundings

/-- Surroundings under new names. -/
def rename (names : Renaming) (around : Surroundings) : Surroundings :=
  { scope := around.scope.rename names
    robots := around.robots.map names.ofRobot
    procedures := around.procedures.rename names.ofProcedure (·.rename names)
    everyone := around.everyone.map names.ofRobot }

variable (names : Renaming) (around : Surroundings)

theorem assignFault?_rename (target : Text) (value : Expression) :
    (around.rename names).assignFault? (names.ofVariable target) (value.rename names) =
      (around.assignFault? target value).map (·.rename names) := by
  simp only [assignFault?, rename, Scope.rename, NameTable.find?_rename names.variable_injective]
  cases NameTable.find? around.scope target with
  | none => rfl
  | some declared =>
      simp only [Option.map_some, id]
      rw [← Scope.rename, value.infer_rename]
      cases value.infer around.scope with
      | error reason => rfl
      | ok found =>
          simp only [mapError_ok]
          split <;> rfl

theorem conditionFault?_rename (control : Control) (condition : Expression) :
    (around.rename names).conditionFault? control (condition.rename names) =
      (around.conditionFault? control condition).map (·.rename names) := by
  simp only [conditionFault?, rename, condition.infer_rename]
  cases condition.infer around.scope with
  | error reason => rfl
  | ok found =>
      simp only [mapError_ok]
      split <;> rfl

theorem informFault?_rename (notice : Notice) (value : Option Expression) :
    (around.rename names).informFault? (notice.rename names) (value.map (·.rename names)) =
      (around.informFault? notice value).map (·.rename names) := by
  have behind_text (content : Text) (checked : Option Expression) :
      (around.rename names).informFault? (.text content) (checked.map (·.rename names)) =
        (around.informFault? (.text content) checked).map (·.rename names) := by
    cases checked with
    | none => rfl
    | some checked =>
        simp only [informFault?, rename, Option.map_some, checked.infer_rename]
        cases checked.infer around.scope <;> rfl
  cases notice with
  | text content => exact behind_text content value
  | value expression => exact behind_text .empty (some expression)

theorem coordinateFault?_rename (keyword : String) (axis : Axis) (coordinate : Expression) :
    (around.rename names).coordinateFault? keyword axis (coordinate.rename names) =
      (around.coordinateFault? keyword axis coordinate).map (·.rename names) := by
  simp only [coordinateFault?, rename, coordinate.infer_rename]
  cases coordinate.infer around.scope with
  | error reason => rfl
  | ok found =>
      simp only [mapError_ok]
      split <;> rfl

theorem cornerFault?_rename (keyword : String) (x y : Expression) :
    (around.rename names).cornerFault? keyword (x.rename names) (y.rename names) =
      (around.cornerFault? keyword x y).map (·.rename names) := by
  rw [cornerFault?, cornerFault?, coordinateFault?_rename, coordinateFault?_rename, Option.map_or]

theorem reaches_rename (recipient : Text) :
    ((around.rename names).everyone = some (names.ofRobot recipient) ∨
        names.ofRobot recipient ∈ (around.rename names).robots) ↔
      (around.everyone = some recipient ∨ recipient ∈ around.robots) := by
  simp [rename, names.robot_injective.eq_iff]

theorem exchangeFault?_rename (mode : MessageMode) (value : Expression) (recipient : Text) :
    (around.rename names).exchangeFault? mode (value.rename names) (names.ofRobot recipient) =
      (around.exchangeFault? mode value recipient).map (·.rename names) := by
  simp only [exchangeFault?, reaches_rename]
  rw [show (around.rename names).scope = around.scope.rename names from rfl, value.infer_rename]
  cases value.infer around.scope with
  | error reason => rfl
  | ok found =>
      simp only [mapError_ok]
      split <;> rfl

theorem argumentFault?_rename (procedure : Text) (position : Nat) (parameter : Parameter)
    (argument : Expression) :
    (around.rename names).argumentFault? (names.ofProcedure procedure) position
        (parameter.rename names) (argument.rename names) =
      (around.argumentFault? procedure position parameter argument).map (·.rename names) := by
  obtain ⟨passing, name, type⟩ := parameter
  cases passing with
  | byReference =>
      cases argument with
      | «variable» given =>
          simp only [argumentFault?, Parameter.rename, Expression.rename, rename, Scope.rename,
            NameTable.find?_rename names.variable_injective]
          cases NameTable.find? around.scope given with
          | none => rfl
          | some declared =>
              by_cases agrees : declared = type.token
              · simp [agrees]
              · simp [agrees, StatementFault.rename]
      | _ => rfl
  | byValue =>
      simp only [argumentFault?, Parameter.rename, rename, argument.infer_rename]
      cases argument.infer around.scope with
      | error reason => rfl
      | ok found =>
          simp only [mapError_ok]
          by_cases agrees : found = type.token
          · simp [agrees]
          · simp [agrees, StatementFault.rename]

theorem argumentsFault?_rename (procedure : Text) (position : Nat) (parameters : List Parameter)
    (arguments : List Expression) :
    (around.rename names).argumentsFault? (names.ofProcedure procedure) position
        (parameters.map (·.rename names)) (arguments.map (·.rename names)) =
      (around.argumentsFault? procedure position parameters arguments).map (·.rename names) := by
  induction parameters generalizing position arguments with
  | nil => rfl
  | cons parameter rest ih =>
      cases arguments with
      | nil => rfl
      | cons argument others =>
          rw [List.map_cons, List.map_cons, argumentsFault?, argumentsFault?,
            argumentFault?_rename, ih, Option.map_or]

theorem callFault?_rename (procedure : Text) (arguments : List Expression) :
    (around.rename names).callFault? (names.ofProcedure procedure) (arguments.map (·.rename names)) =
      (around.callFault? procedure arguments).map (·.rename names) := by
  have table_renamed : (around.rename names).procedures =
      around.procedures.rename names.ofProcedure (·.rename names) := rfl
  rw [callFault?, callFault?, table_renamed, NameTable.find?_rename names.procedure_injective]
  cases around.procedures.find? procedure with
  | none => rfl
  | some signature =>
      simp only [Option.map_some, Signature.rename, List.length_map, argumentsFault?_rename]
      split
      · rfl
      · split <;> rfl

end Surroundings

namespace Statement

variable (names : Renaming) (around : Surroundings)

mutual

/-- The fault of a renamed statement is the renamed fault of the statement. -/
theorem fault?_rename (statement : Statement) :
    (statement.rename names).fault? (around.rename names) =
      (statement.fault? around).map (·.rename names) := by
  cases statement with
  | assign target value => exact around.assignFault?_rename names target value
  | block body => exact bodyFault?_rename body
  | ifThen condition body =>
      rw [rename, fault?, fault?, around.conditionFault?_rename, fault?_rename body, Option.map_or]
  | ifElse condition body otherwise =>
      rw [rename, fault?, fault?, around.conditionFault?_rename, fault?_rename body,
        fault?_rename otherwise, Option.map_or, Option.map_or, Option.map_map, Option.map_map]
      rfl
  | times count body =>
      rw [rename, fault?, fault?, around.conditionFault?_rename, fault?_rename body, Option.map_or]
  | loop condition body =>
      rw [rename, fault?, fault?, around.conditionFault?_rename, fault?_rename body, Option.map_or]
  | inform notice value => exact around.informFault?_rename names notice value
  | moveTo x y => exact around.cornerFault?_rename names "Pos" x y
  | exchange mode value recipient =>
      exact around.exchangeFault?_rename names mode value recipient
  | corner mode x y => exact around.cornerFault?_rename names mode.keyword x y
  | call procedure arguments => exact around.callFault?_rename names procedure arguments

theorem bodyFault?_rename (body : List Statement) :
    bodyFault? (around.rename names) (renameBody names body) =
      (bodyFault? around body).map (·.rename names) := by
  cases body with
  | nil => rfl
  | cons first rest =>
      rw [renameBody, bodyFault?, bodyFault?, fault?_rename first, bodyFault?_rename rest,
        Option.map_or]

end

end Statement

/-! ## Declarations -/

/-- A setting under new names. -/
def Setting.rename (names : Renaming) (setting : Setting) : Setting :=
  { robots := setting.robots.map names.ofRobot
    procedures := setting.procedures.rename names.ofProcedure (·.rename names)
    everyone := setting.everyone.map names.ofRobot }

theorem Setting.around_rename (names : Renaming) (setting : Setting) (scope : Scope) :
    (setting.rename names).around (scope.rename names) = (setting.around scope).rename names := rfl

section Declarations

variable (names : Renaming)

theorem scopeOf_rename (locals : List Variable) (parameters : List Parameter) :
    scopeOf (locals.map (·.rename names)) (parameters.map (·.rename names)) =
      (scopeOf locals parameters).rename names := by
  rw [scopeOf, scopeOf, Scope.rename, NameTable.rename_ofFirst names.variable_injective,
    List.map_append, List.map_map, List.map_map, List.map_map, List.map_map]
  rfl

theorem signatures_rename (procedures : List Procedure) :
    signatures (procedures.map (·.rename names)) =
      (signatures procedures).rename names.ofProcedure (·.rename names) := by
  rw [signatures, signatures, NameTable.rename_ofFirst names.procedure_injective, List.map_map,
    List.map_map]
  rfl

theorem Procedure.hidingFault?_rename (procedure : Procedure) :
    (procedure.rename names).hidingFault? = procedure.hidingFault?.map (·.rename names) := by
  obtain ⟨name, parameters, locals, body⟩ := procedure
  have hides_same (declared : Variable) :
      ((parameters.map (·.rename names)).map (·.name)).contains (declared.rename names).name =
        (parameters.map (·.name)).contains declared.name := by
    simp [Parameter.rename, Variable.rename, names.variable_injective.eq_iff]
  simp only [hidingFault?, rename, List.find?_map, Function.comp_def, hides_same, Option.map_map]
  rfl

/-- The fault of a renamed procedure is the renamed fault of the procedure. -/
theorem Procedure.fault?_rename (setting : Setting) (strict : Bool) (procedure : Procedure) :
    (procedure.rename names).fault? (setting.rename names) strict =
      (procedure.fault? setting strict).map (·.rename names) := by
  have parameters_renamed : (procedure.rename names).parameterFault? =
      procedure.parameterFault?.map (·.rename names) := by
    rw [parameterFault?, parameterFault?, rename,
      repetition?_rename names.variable_injective (Parameter.rename names) Parameter.name
        (fun _ => rfl), Option.map_map, Option.map_map]
    rfl
  have variables_renamed : (procedure.rename names).variableFault? =
      procedure.variableFault?.map (·.rename names) := by
    rw [variableFault?, variableFault?, rename,
      repetition?_rename names.variable_injective (Variable.rename names) Variable.name
        (fun _ => rfl), Option.map_map, Option.map_map]
    rfl
  have body_renamed : (procedure.rename names).bodyFault? (setting.rename names) =
      (procedure.bodyFault? setting).map (·.rename names) := by
    have scope_renamed : (procedure.rename names).scope = procedure.scope.rename names :=
      scopeOf_rename names procedure.locals procedure.parameters
    rw [bodyFault?, bodyFault?, scope_renamed, setting.around_rename]
    simp only [rename, Statement.bodyFault?_rename, Option.map_map]
    rfl
  rw [fault?, fault?, parameters_renamed, variables_renamed, body_renamed,
    procedure.hidingFault?_rename names]
  cases strict <;> simp [Option.map_or]

theorem proceduresFault?_rename (procedures : List Procedure) (robots : List Text)
    (everyone : Option Text) (strict : Bool) :
    proceduresFault? (procedures.map (·.rename names)) (robots.map names.ofRobot)
        (everyone.map names.ofRobot) strict =
      (proceduresFault? procedures robots everyone strict).map (·.rename names) := by
  rw [proceduresFault?, proceduresFault?,
    repetition?_rename names.procedure_injective (Procedure.rename names) Procedure.name
      (fun _ => rfl), signatures_rename]
  cases repetition? (procedures.map (·.name)) with
  | some repetition => rfl
  | none =>
      simp only [Option.map_none, List.findSome?_map, List.map_findSome?]
      refine congrArg (List.findSome? · procedures) (funext fun procedure => ?_)
      exact procedure.fault?_rename names
        { robots, procedures := signatures procedures, everyone } strict

/-- The fault of a renamed robot type is the renamed fault of the robot type. -/
theorem RobotType.fault?_rename (setting : Setting) (robotType : RobotType) :
    (robotType.rename names).fault? (setting.rename names) =
      (robotType.fault? setting).map (·.rename names) := by
  have variables_renamed : (robotType.rename names).variableFault? =
      robotType.variableFault?.map (·.rename names) := by
    rw [variableFault?, variableFault?, rename,
      repetition?_rename names.variable_injective (Variable.rename names) Variable.name
        (fun _ => rfl), Option.map_map, Option.map_map]
    rfl
  have body_renamed : (robotType.rename names).bodyFault? (setting.rename names) =
      (robotType.bodyFault? setting).map (·.rename names) := by
    have scope_renamed : (robotType.rename names).scope = robotType.scope.rename names :=
      scopeOf_rename names robotType.locals []
    rw [bodyFault?, bodyFault?, scope_renamed, setting.around_rename]
    simp only [rename, Statement.bodyFault?_rename, Option.map_map]
    rfl
  rw [fault?, fault?, variables_renamed, body_renamed, Option.map_or]

theorem robotTypesFault?_rename (robotTypes : List RobotType) (procedures : List Procedure)
    (robots : List Text) (everyone : Option Text) :
    robotTypesFault? (robotTypes.map (·.rename names)) (procedures.map (·.rename names))
        (robots.map names.ofRobot) (everyone.map names.ofRobot) =
      (robotTypesFault? robotTypes procedures robots everyone).map (·.rename names) := by
  rw [robotTypesFault?, robotTypesFault?,
    repetition?_rename names.robotType_injective (RobotType.rename names) RobotType.name
      (fun _ => rfl), signatures_rename]
  cases repetition? (robotTypes.map (·.name)) with
  | some repetition => rfl
  | none =>
      simp only [Option.map_none, List.findSome?_map, List.map_findSome?]
      refine congrArg (List.findSome? · robotTypes) (funext fun robotType => ?_)
      exact robotType.fault?_rename names
        { robots, procedures := signatures procedures, everyone }

end Declarations
end RobotCity
