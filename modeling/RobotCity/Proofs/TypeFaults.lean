import RobotCity.Proofs.Typing

/-!
# The first fault of an expression

A node of an expression breaks the rules of types if everything directly below it has a type and no rule
gives one to the node itself.  Inference complains about the first node that does so where operands come
before their operator, the left one before the right one.
-/

namespace RobotCity
namespace Expression

/-- The nodes of an expression, operands before their operator and left before right. -/
def postorder : Expression → List Expression
  | .unary operator operand => operand.postorder ++ [.unary operator operand]
  | .binary operator left right =>
    left.postorder ++ right.postorder ++ [.binary operator left right]
  | leaf => [leaf]

/-- The nodes below the root, in the same order. -/
def descendants : Expression → List Expression
  | .unary _ operand => operand.postorder
  | .binary _ left right => left.postorder ++ right.postorder
  | _ => []

theorem postorder_eq_descendants_append (expression : Expression) :
    expression.postorder = expression.descendants ++ [expression] := by
  cases expression <;> rfl

theorem mem_postorder_iff {expression node : Expression} :
    node ∈ expression.postorder ↔ node ∈ expression.parts := by
  induction expression with
  | unary operator operand ih => simp [postorder, parts, ih, or_comm]
  | binary operator left right left_ih right_ih =>
      simp only [postorder, parts, List.mem_append, List.mem_cons, List.not_mem_nil, or_false,
        left_ih, right_ih]
      exact or_comm
  | _ => rfl

/-- The type that an operator wants both of its operands to have. -/
inductive WantsOperands : Text → Text → Prop
  | numeric {operator : Text} :
    operator ∈ arithmeticOperators ++ relationalOperators → WantsOperands operator "numero"
  | boolean {operator : Text} : operator ∈ logicalOperators → WantsOperands operator "boolean"

/-- A node has no type although everything directly below it has one, and this is the complaint. -/
inductive Breaks (scope : Scope) : Expression → Complaint → Prop
  | undeclared {name : Text} :
    scope.find? name = none →
    Breaks scope (.variable name) ⟨s!"Invalid variable, '{name}' was not declared", false⟩
  | unknownQuery {name : Text} :
    name ∉ positionQueries ++ findingQueries →
    Breaks scope (.query name) ⟨s!"Unknown state query '{name}'", true⟩
  | minus {operand : Expression} {type : Text} :
    operand.HasType scope type → type ≠ "numero" →
    Breaks scope (.unary "-" operand)
      ⟨s!"Cannot make a {type} value negative, misuse of operator '-'", false⟩
  | not {operand : Expression} {type : Text} :
    operand.HasType scope type → type ≠ "boolean" →
    Breaks scope (.unary "~" operand)
      ⟨s!"Cannot negate a {type} value, misuse of operator '~'", false⟩
  | unknownUnary {operator type : Text} {operand : Expression} :
    operand.HasType scope type → operator ∉ (["-", "~"] : List Text) →
    Breaks scope (.unary operator operand) ⟨s!"Unknown unary operator '{operator}'", true⟩
  | wrongLeft {operator wanted leftType rightType : Text} {left right : Expression} :
    left.HasType scope leftType → right.HasType scope rightType →
    WantsOperands operator wanted → leftType ≠ wanted →
    Breaks scope (.binary operator left right)
      ⟨s!"To use operator {operator} the left operand must be of type {wanted}", false⟩
  | wrongRight {operator wanted rightType : Text} {left right : Expression} :
    left.HasType scope wanted → right.HasType scope rightType →
    WantsOperands operator wanted → rightType ≠ wanted →
    Breaks scope (.binary operator left right)
      ⟨s!"To use operator {operator} the right operand must be of type {wanted}", false⟩
  | unequal {operator leftType rightType : Text} {left right : Expression} :
    left.HasType scope leftType → right.HasType scope rightType →
    operator ∈ equalityOperators → leftType ≠ rightType →
    Breaks scope (.binary operator left right)
      ⟨s!"To use operator {operator} the left operand must be of the same type as " ++
        "the right operand", false⟩
  | unknownBinary {operator leftType rightType : Text} {left right : Expression} :
    left.HasType scope leftType → right.HasType scope rightType →
    operator ∉ arithmeticOperators ++ relationalOperators ++ logicalOperators ++
      equalityOperators →
    Breaks scope (.binary operator left right) ⟨s!"Unknown binary operator '{operator}'", true⟩

/-- A node is the first of a list that breaks a rule, and this is the complaint. -/
def FirstBreak (scope : Scope) (nodes : List Expression) (node : Expression)
    (complaint : Complaint) : Prop :=
  ∃ before after, nodes = before ++ node :: after ∧
    (∀ earlier ∈ before, ∀ other, ¬earlier.Breaks scope other) ∧ node.Breaks scope complaint

variable {scope : Scope}

theorem wantsOperands_iff {operator wanted : Text} :
    WantsOperands operator wanted ↔
      ∃ family expected, OperatorFamily.ofOperator? operator = some family ∧
        family.operand? = some expected ∧ wanted = expected.token := by
  constructor
  · rintro (member | member)
    · rcases List.mem_append.mp member with arithmetic | relational
      · exact ⟨.arithmetic, .numeric, OperatorFamily.ofOperator?_eq_some_iff.mpr arithmetic, rfl, rfl⟩
      · exact ⟨.relational, .numeric, OperatorFamily.ofOperator?_eq_some_iff.mpr relational, rfl, rfl⟩
    · exact ⟨.logical, .boolean, OperatorFamily.ofOperator?_eq_some_iff.mpr member, rfl, rfl⟩
  · rintro ⟨family, expected, known, prescribed, rfl⟩
    have member := OperatorFamily.ofOperator?_eq_some_iff.mp known
    cases family with
    | arithmetic =>
        cases prescribed
        exact .numeric (List.mem_append_left _ member)
    | relational =>
        cases prescribed
        exact .numeric (List.mem_append_right _ member)
    | logical =>
        cases prescribed
        exact .boolean member
    | equality => cases prescribed

theorem breaks_of_unaryType {operator type : Text} {operand : Expression} {reason : TypeFault}
    (typed : operand.HasType scope type) (stopped : unaryType operator type = .error reason) :
    (Expression.unary operator operand).Breaks scope reason.complaint := by
  rw [unaryType] at stopped
  split at stopped
  · rename_i unknown
    cases stopped
    exact .unknownUnary typed (Sign.ofOperator?_eq_none_iff.mp unknown)
  · rename_i sign known
    split at stopped
    · cases stopped
    · rename_i unfit
      cases stopped
      rcases Sign.ofOperator?_eq_some_iff.mp known with ⟨rfl, rfl⟩ | ⟨rfl, rfl⟩
      · exact .minus typed unfit
      · exact .not typed unfit

theorem breaks_of_binaryType {operator leftType rightType : Text} {left right : Expression}
    {reason : TypeFault} (left_typed : left.HasType scope leftType)
    (right_typed : right.HasType scope rightType)
    (stopped : binaryType operator leftType rightType = .error reason) :
    (Expression.binary operator left right).Breaks scope reason.complaint := by
  rw [binaryType] at stopped
  split at stopped
  · rename_i unknown
    cases stopped
    exact .unknownBinary left_typed right_typed (OperatorFamily.ofOperator?_eq_none_iff.mp unknown)
  · rename_i family known
    split at stopped
    · rename_i expected prescribed
      have wanted := wantsOperands_iff.mpr ⟨family, expected, known, prescribed, rfl⟩
      split at stopped
      · rename_i left_unfit
        cases stopped
        exact .wrongLeft left_typed right_typed wanted left_unfit
      · rename_i left_fits
        split at stopped
        · rename_i right_unfit
          cases stopped
          rw [Classical.not_not.mp left_fits] at left_typed
          exact .wrongRight left_typed right_typed wanted right_unfit
        · cases stopped
    · rename_i free
      split at stopped
      · cases stopped
      · rename_i unequal
        cases stopped
        have member := OperatorFamily.ofOperator?_eq_some_iff.mp known
        cases family with
        | equality => exact .unequal left_typed right_typed member unequal
        | _ => cases free

namespace FirstBreak

variable {nodes : List Expression} {node : Expression} {complaint : Complaint}

theorem at_root {expression : Expression} (breaks : expression.Breaks scope complaint)
    (below : ∀ earlier ∈ expression.descendants, ∀ other, ¬earlier.Breaks scope other) :
    FirstBreak scope expression.postorder expression complaint :=
  ⟨expression.descendants, [], postorder_eq_descendants_append expression, below, breaks⟩

theorem append_right (first : FirstBreak scope nodes node complaint) (rest : List Expression) :
    FirstBreak scope (nodes ++ rest) node complaint := by
  obtain ⟨before, after, rfl, earlier, breaks⟩ := first
  exact ⟨before, after ++ rest, by simp, earlier, breaks⟩

theorem append_left (first : FirstBreak scope nodes node complaint) {front : List Expression}
    (unbroken : ∀ earlier ∈ front, ∀ other, ¬earlier.Breaks scope other) :
    FirstBreak scope (front ++ nodes) node complaint := by
  obtain ⟨before, after, rfl, earlier, breaks⟩ := first
  refine ⟨front ++ before, after, by simp, ?_, breaks⟩
  intro passed member
  rcases List.mem_append.mp member with in_front | in_before
  · exact unbroken passed in_front
  · exact earlier passed in_before

theorem breaks (first : FirstBreak scope nodes node complaint) : node.Breaks scope complaint := by
  obtain ⟨-, -, -, -, breaks⟩ := first
  exact breaks

theorem node_mem (first : FirstBreak scope nodes node complaint) : node ∈ nodes := by
  obtain ⟨before, after, rfl, -, -⟩ := first
  simp

open Classical in
theorem find?_eq (first : FirstBreak scope nodes node complaint) :
    nodes.find? (fun candidate => ∃ other, candidate.Breaks scope other) = some node := by
  obtain ⟨before, after, rfl, earlier, breaks⟩ := first
  refine List.find?_eq_some_iff_append.mpr
    ⟨decide_eq_true ⟨complaint, breaks⟩, before, after, rfl, ?_⟩
  intro passed member
  simpa using earlier passed member

/-- At most one node is the first that breaks a rule. -/
theorem node_eq {other : Expression} {otherwise : Complaint}
    (first : FirstBreak scope nodes node complaint)
    (first_too : FirstBreak scope nodes other otherwise) : node = other := by
  have same := first.find?_eq.symm.trans first_too.find?_eq
  exact Option.some.inj same

end FirstBreak

theorem infer_unary_of_hasType {operator type : Text} {operand : Expression}
    (typed : operand.HasType scope type) :
    (Expression.unary operator operand).infer scope = unaryType operator type := by
  rw [infer, infer_of_hasType typed]
  rfl

theorem infer_binary_of_hasType {operator leftType rightType : Text} {left right : Expression}
    (left_typed : left.HasType scope leftType) (right_typed : right.HasType scope rightType) :
    (Expression.binary operator left right).infer scope =
      binaryType operator leftType rightType := by
  rw [infer, infer_of_hasType left_typed, infer_of_hasType right_typed]
  rfl

/-- Inference at a node that breaks a rule fails with the complaint of the rule, and never for want of a
rule. -/
theorem Breaks.infer_eq_error {node : Expression} {complaint : Complaint}
    (breaks : node.Breaks scope complaint) :
    ∃ reason, node.infer scope = .error reason ∧ reason.complaint = complaint ∧
      ∀ kind, reason ≠ .notExpression kind := by
  cases breaks with
  | undeclared missing => exact ⟨.undeclared _, by rw [infer, missing], rfl, by simp⟩
  | unknownQuery unknown =>
      exact ⟨.unknownQuery _, by rw [infer, queryType?_eq_none_iff.mpr unknown], rfl, by simp⟩
  | minus typed unfit =>
      refine ⟨.wrongOperand .minus _, ?_, rfl, by simp⟩
      rw [infer_unary_of_hasType typed]
      exact if_neg unfit
  | not typed unfit =>
      refine ⟨.wrongOperand .not _, ?_, rfl, by simp⟩
      rw [infer_unary_of_hasType typed]
      exact if_neg unfit
  | unknownUnary typed unknown =>
      refine ⟨.unknownUnary _, ?_, rfl, by simp⟩
      rw [infer_unary_of_hasType typed, unaryType, Sign.ofOperator?_eq_none_iff.mpr unknown]
  | wrongLeft left_typed right_typed wants unfit =>
      obtain ⟨family, expected, known, prescribed, rfl⟩ := wantsOperands_iff.mp wants
      refine ⟨.wrongLeft _ expected, ?_, rfl, by simp⟩
      rw [infer_binary_of_hasType left_typed right_typed]
      simp [binaryType, known, prescribed, unfit]
  | wrongRight left_typed right_typed wants unfit =>
      obtain ⟨family, expected, known, prescribed, rfl⟩ := wantsOperands_iff.mp wants
      refine ⟨.wrongRight _ expected, ?_, rfl, by simp⟩
      rw [infer_binary_of_hasType left_typed right_typed]
      simp [binaryType, known, prescribed, unfit]
  | unequal left_typed right_typed member differ =>
      refine ⟨.unequal _, ?_, rfl, by simp⟩
      have known : OperatorFamily.ofOperator? _ = some .equality :=
        OperatorFamily.ofOperator?_eq_some_iff.mpr member
      rw [infer_binary_of_hasType left_typed right_typed]
      simp [binaryType, known, OperatorFamily.operand?, differ]
  | unknownBinary left_typed right_typed unknown =>
      refine ⟨.unknownBinary _, ?_, rfl, by simp⟩
      rw [infer_binary_of_hasType left_typed right_typed, binaryType,
        OperatorFamily.ofOperator?_eq_none_iff.mpr unknown]

theorem Breaks.complaint_eq {node : Expression} {complaint other : Complaint}
    (breaks : node.Breaks scope complaint) (breaks_too : node.Breaks scope other) :
    complaint = other := by
  obtain ⟨reason, stopped, rfl, -⟩ := breaks.infer_eq_error
  obtain ⟨reason_too, stopped_too, rfl, -⟩ := breaks_too.infer_eq_error
  obtain rfl := Except.error.inj (stopped.symm.trans stopped_too)
  rfl

theorem HasType.not_breaks {expression : Expression} {type : Text}
    (typed : expression.HasType scope type) (complaint : Complaint) :
    ¬expression.Breaks scope complaint := by
  intro breaks
  obtain ⟨reason, stopped, -⟩ := breaks.infer_eq_error
  rw [infer_of_hasType typed] at stopped
  cases stopped

/-- No node of an expression with a type breaks a rule. -/
theorem HasType.unbroken {expression : Expression} {type : Text}
    (typed : expression.HasType scope type) :
    ∀ node ∈ expression.postorder, ∀ complaint, ¬node.Breaks scope complaint := by
  intro node member
  obtain ⟨nodeType, node_typed⟩ := typed.of_mem_parts (mem_postorder_iff.mp member)
  exact node_typed.not_breaks

/-- Below a node that breaks a rule everything has a type. -/
theorem Breaks.descendants_typed {node below : Expression} {complaint : Complaint}
    (breaks : node.Breaks scope complaint) (member : below ∈ node.descendants) :
    ∃ type, below.HasType scope type := by
  have of_operand : ∀ {operand : Expression} {type : Text}, operand.HasType scope type →
      below ∈ operand.postorder → ∃ type, below.HasType scope type :=
    fun typed inside => typed.of_mem_parts (mem_postorder_iff.mp inside)
  cases breaks with
  | undeclared | unknownQuery => cases member
  | minus typed | not typed | unknownUnary typed => exact of_operand typed member
  | wrongLeft left_typed right_typed | wrongRight left_typed right_typed
  | unequal left_typed right_typed | unknownBinary left_typed right_typed =>
      rcases List.mem_append.mp member with in_left | in_right
      · exact of_operand left_typed in_left
      · exact of_operand right_typed in_right

theorem Breaks.firstBreak {node : Expression} {complaint : Complaint}
    (breaks : node.Breaks scope complaint) :
    FirstBreak scope node.postorder node complaint := by
  refine .at_root breaks fun earlier member => ?_
  obtain ⟨type, typed⟩ := breaks.descendants_typed member
  exact typed.not_breaks

/-- Inference that fails does so for the reason of the first node that breaks a rule. -/
theorem firstBreak_of_infer {expression : Expression} {reason : TypeFault}
    (stopped : expression.infer scope = .error reason) :
    ∃ node, FirstBreak scope expression.postorder node reason.complaint ∧
      node.infer scope = .error reason := by
  induction expression with
  | integer => cases stopped
  | boolean => cases stopped
  | «variable» name =>
      have breaks : (Expression.variable name).Breaks scope reason.complaint := by
        rw [infer] at stopped
        split at stopped
        · cases stopped
        · rename_i missing
          cases stopped
          exact .undeclared missing
      exact ⟨_, breaks.firstBreak, stopped⟩
  | query name =>
      have breaks : (Expression.query name).Breaks scope reason.complaint := by
        rw [infer] at stopped
        split at stopped
        · cases stopped
        · rename_i unknown
          cases stopped
          exact .unknownQuery (queryType?_eq_none_iff.mp unknown)
      exact ⟨_, breaks.firstBreak, stopped⟩
  | unary operator operand ih =>
      cases inferred : operand.infer scope with
      | error inner =>
          rw [infer, inferred] at stopped
          cases stopped
          obtain ⟨node, first, node_stopped⟩ := ih inferred
          exact ⟨node, first.append_right _, node_stopped⟩
      | ok type =>
          have typed := hasType_of_infer inferred
          have root_stopped := stopped
          rw [infer_unary_of_hasType typed] at root_stopped
          exact ⟨_, (breaks_of_unaryType typed root_stopped).firstBreak, stopped⟩
  | binary operator left right left_ih right_ih =>
      cases left_inferred : left.infer scope with
      | error inner =>
          rw [infer, left_inferred] at stopped
          cases stopped
          obtain ⟨node, first, node_stopped⟩ := left_ih left_inferred
          exact ⟨node, (first.append_right _).append_right _, node_stopped⟩
      | ok leftType =>
          have left_typed := hasType_of_infer left_inferred
          cases right_inferred : right.infer scope with
          | error inner =>
              rw [infer, left_inferred, right_inferred] at stopped
              cases stopped
              obtain ⟨node, first, node_stopped⟩ := right_ih right_inferred
              exact ⟨node, (first.append_left left_typed.unbroken).append_right _, node_stopped⟩
          | ok rightType =>
              have right_typed := hasType_of_infer right_inferred
              have root_stopped := stopped
              rw [infer_binary_of_hasType left_typed right_typed] at root_stopped
              exact ⟨_, (breaks_of_binaryType left_typed right_typed root_stopped).firstBreak,
                stopped⟩

theorem infer_of_firstBreak {expression node : Expression} {complaint : Complaint}
    (first : FirstBreak scope expression.postorder node complaint) :
    ∃ reason, expression.infer scope = .error reason ∧ reason.complaint = complaint := by
  have breaks := first.breaks
  cases inferred : expression.infer scope with
  | ok type => exact absurd breaks ((hasType_of_infer inferred).unbroken node first.node_mem _)
  | error reason =>
      refine ⟨reason, rfl, ?_⟩
      obtain ⟨other, other_first, -⟩ := firstBreak_of_infer inferred
      obtain rfl := first.node_eq other_first
      exact other_first.breaks.complaint_eq breaks

/-- Inference fails exactly if a node breaks a rule, and its complaint is that of the first one where
operands come before their operator and left before right.  Everything below that node has a type. -/
theorem infer_complains_of_first_break (scope : Scope) (expression : Expression) :
    (∀ complaint,
      (∃ reason, expression.infer scope = .error reason ∧ reason.complaint = complaint) ↔
        ∃ node, FirstBreak scope expression.postorder node complaint) ∧
      ∀ node complaint, FirstBreak scope expression.postorder node complaint →
        ∀ below ∈ node.descendants, ∃ type, below.infer scope = .ok type := by
  refine ⟨fun complaint => ⟨?_, fun ⟨node, first⟩ => infer_of_firstBreak first⟩, ?_⟩
  · rintro ⟨reason, stopped, rfl⟩
    obtain ⟨node, first, -⟩ := firstBreak_of_infer stopped
    exact ⟨node, first⟩
  · intro node complaint first below member
    obtain ⟨type, typed⟩ := first.breaks.descendants_typed member
    exact ⟨type, infer_of_hasType typed⟩

/-- A truth value made negative, to the right of an operator that nobody knows. -/
def tangled : Expression :=
  .binary "^" (.integer 1) (.unary "-" (.binary "=" (.integer 2) (.query "PosAv")))

/-- The right operand is looked at before the operator, and its own operand before it. -/
theorem tangled_reported :
    (∃ node, FirstBreak ⟨[]⟩ tangled.postorder node
      ⟨"Cannot make a boolean value negative, misuse of operator '-'", false⟩) ∧
      ∀ node complaint, FirstBreak ⟨[]⟩ tangled.postorder node complaint →
        ∀ below ∈ node.descendants, ∃ type, below.infer ⟨[]⟩ = .ok type := by
  have reported := infer_complains_of_first_break ⟨[]⟩ tangled
  exact ⟨(reported.1 _).mp ⟨.wrongOperand .minus "boolean", rfl, rfl⟩, reported.2⟩

end Expression
end RobotCity
