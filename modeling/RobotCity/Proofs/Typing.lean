import RobotCity.Check.Typing
import RobotCity.Proofs.NameTable

/-!
# Rules of types

An expression has a type by rules that name the operators and queries themselves.  Inference finds
the type of every expression that has one, and no type that the rules do not give.
-/

namespace RobotCity

/-- The operators that make a number of two numbers. -/
def arithmeticOperators : List Text := ["+", "-", "*", "/"]

/-- The operators that compare two numbers. -/
def relationalOperators : List Text := [">", ">=", "<", "<="]

/-- The operators that join two truth values. -/
def logicalOperators : List Text := ["&", "|"]

/-- The operators that compare two values of one type. -/
def equalityOperators : List Text := ["=", "!="]

/-- The queries of the position of a robot. -/
def positionQueries : List Text := ["PosAv", "PosCa"]

/-- The queries of what lies at the corner of a robot or in its bag. -/
def findingQueries : List Text :=
  ["HayFlorEnLaEsquina", "HayPapelEnLaEsquina", "HayFlorEnLaBolsa", "HayPapelEnLaBolsa"]

theorem queryType?_eq_some_iff {name : Text} {type : ValueType} :
    queryType? name = some type ↔
      (name ∈ positionQueries ∧ type = .numeric) ∨ (name ∈ findingQueries ∧ type = .boolean) := by
  have names_nodup : (queries.map (·.1)).Nodup := by simp [queries]
  rw [queryType?, NameTable.lookup_eq_some_iff_mem names_nodup]
  cases type <;> simp [queries, positionQueries, findingQueries]

theorem queryType?_eq_none_iff {name : Text} :
    queryType? name = none ↔ name ∉ positionQueries ++ findingQueries := by
  rw [Option.eq_none_iff_forall_ne_some, List.mem_append, not_or]
  simp only [ne_eq, queryType?_eq_some_iff, not_or]
  exact ⟨fun unknown => ⟨fun member => (unknown .numeric).1 ⟨member, rfl⟩,
      fun member => (unknown .boolean).2 ⟨member, rfl⟩⟩,
    fun unknown _ => ⟨fun known => unknown.1 known.1, fun known => unknown.2 known.1⟩⟩

theorem Sign.ofOperator?_eq_some_iff {operator : Text} {sign : Sign} :
    Sign.ofOperator? operator = some sign ↔
      (operator = "-" ∧ sign = .minus) ∨ (operator = "~" ∧ sign = .not) := by
  have names_nodup : (Sign.operators.map (·.1)).Nodup := by simp [operators]
  rw [ofOperator?, NameTable.lookup_eq_some_iff_mem names_nodup]
  simp [operators]

theorem Sign.ofOperator?_eq_none_iff {operator : Text} :
    Sign.ofOperator? operator = none ↔ operator ∉ (["-", "~"] : List Text) := by
  rw [Option.eq_none_iff_forall_ne_some, List.mem_cons, List.mem_singleton, not_or]
  simp only [ne_eq, Sign.ofOperator?_eq_some_iff, not_or]
  exact ⟨fun unknown => ⟨fun same => (unknown .minus).1 ⟨same, rfl⟩,
      fun same => (unknown .not).2 ⟨same, rfl⟩⟩,
    fun unknown _ => ⟨fun known => unknown.1 known.1, fun known => unknown.2 known.1⟩⟩

namespace OperatorFamily

/-- The operators of a family. -/
def members : OperatorFamily → List Text
  | .arithmetic => arithmeticOperators
  | .relational => relationalOperators
  | .logical => logicalOperators
  | .equality => equalityOperators

theorem ofOperator?_eq_some_iff {operator : Text} {family : OperatorFamily} :
    ofOperator? operator = some family ↔ operator ∈ family.members := by
  have names_nodup : (operators.map (·.1)).Nodup := by simp [operators]
  rw [ofOperator?, NameTable.lookup_eq_some_iff_mem names_nodup]
  cases family <;>
    simp [operators, members, arithmeticOperators, relationalOperators, logicalOperators,
      equalityOperators]

theorem ofOperator?_eq_none_iff {operator : Text} :
    ofOperator? operator = none ↔
      operator ∉ arithmeticOperators ++ relationalOperators ++ logicalOperators ++
        equalityOperators := by
  rw [Option.eq_none_iff_forall_ne_some]
  simp only [ne_eq, ofOperator?_eq_some_iff, List.mem_append, not_or]
  constructor
  · intro unknown
    exact ⟨⟨⟨unknown .arithmetic, unknown .relational⟩, unknown .logical⟩, unknown .equality⟩
  · rintro ⟨⟨⟨arithmetic, relational⟩, logical⟩, equality⟩ family
    cases family <;> assumption

end OperatorFamily

namespace Expression

/-- The type of an expression whose variables have the types of a scope. -/
inductive HasType (scope : Scope) : Expression → Text → Prop
  | integer {value : Int} : HasType scope (.integer value) "numero"
  | boolean {value : Bool} : HasType scope (.boolean value) "boolean"
  | variable {name type : Text} :
    scope.find? name = some type → HasType scope (.variable name) type
  | position {name : Text} : name ∈ positionQueries → HasType scope (.query name) "numero"
  | finding {name : Text} : name ∈ findingQueries → HasType scope (.query name) "boolean"
  | minus {operand : Expression} :
    HasType scope operand "numero" → HasType scope (.unary "-" operand) "numero"
  | not {operand : Expression} :
    HasType scope operand "boolean" → HasType scope (.unary "~" operand) "boolean"
  | arithmetic {operator : Text} {left right : Expression} :
    operator ∈ arithmeticOperators → HasType scope left "numero" → HasType scope right "numero" →
    HasType scope (.binary operator left right) "numero"
  | relational {operator : Text} {left right : Expression} :
    operator ∈ relationalOperators → HasType scope left "numero" → HasType scope right "numero" →
    HasType scope (.binary operator left right) "boolean"
  | logical {operator : Text} {left right : Expression} :
    operator ∈ logicalOperators → HasType scope left "boolean" → HasType scope right "boolean" →
    HasType scope (.binary operator left right) "boolean"
  /-- The one type of both operands may have any name. -/
  | equality {operator type : Text} {left right : Expression} :
    operator ∈ equalityOperators → HasType scope left type → HasType scope right type →
    HasType scope (.binary operator left right) "boolean"

variable {scope : Scope}

theorem infer_unary_eq_ok_iff {operator type : Text} {operand : Expression} :
    (Expression.unary operator operand).infer scope = .ok type ↔
      ∃ operandType, operand.infer scope = .ok operandType ∧
        unaryType operator operandType = .ok type := by
  rw [infer]
  cases operand.infer scope <;> simp [bind, Except.bind]

theorem infer_binary_eq_ok_iff {operator type : Text} {left right : Expression} :
    (Expression.binary operator left right).infer scope = .ok type ↔
      ∃ leftType rightType, left.infer scope = .ok leftType ∧ right.infer scope = .ok rightType ∧
        binaryType operator leftType rightType = .ok type := by
  rw [infer]
  cases left.infer scope <;> cases right.infer scope <;> simp [bind, Except.bind]

theorem unaryType_eq_ok_iff {operator operand type : Text} :
    unaryType operator operand = .ok type ↔
      ∃ sign, Sign.ofOperator? operator = some sign ∧ operand = sign.type.token ∧
        type = sign.type.token := by
  unfold unaryType
  cases Sign.ofOperator? operator with
  | none => simp
  | some sign =>
      by_cases fits : operand = sign.type.token <;> simp [fits, eq_comm]

theorem binaryType_eq_ok_iff {operator left right type : Text} :
    binaryType operator left right = .ok type ↔
      ∃ family, OperatorFamily.ofOperator? operator = some family ∧ left = right ∧
        (∀ expected, family.operand? = some expected → left = expected.token) ∧
        type = family.result.token := by
  unfold binaryType
  cases OperatorFamily.ofOperator? operator with
  | none => simp
  | some family =>
      cases prescribed : family.operand? with
      | none => by_cases equal : left = right <;> simp [prescribed, equal, eq_comm]
      | some expected =>
          by_cases left_fits : left = expected.token
          · by_cases right_fits : right = expected.token <;>
              simp [prescribed, left_fits, right_fits, eq_comm]
          · simp [prescribed, left_fits]

/-- Operands as the rules of a family want them make a value of the type that the family gives. -/
theorem HasType.of_family {family : OperatorFamily} {operator type : Text} {left right : Expression}
    (member : operator ∈ family.members) (left_typed : left.HasType scope type)
    (right_typed : right.HasType scope type)
    (prescribed : ∀ expected, family.operand? = some expected → type = expected.token) :
    HasType scope (.binary operator left right) family.result.token := by
  cases family with
  | arithmetic =>
      obtain rfl := prescribed .numeric rfl
      exact .arithmetic member left_typed right_typed
  | relational =>
      obtain rfl := prescribed .numeric rfl
      exact .relational member left_typed right_typed
  | logical =>
      obtain rfl := prescribed .boolean rfl
      exact .logical member left_typed right_typed
  | equality => exact .equality member left_typed right_typed

theorem infer_binary_of_family (family : OperatorFamily) {operator type : Text}
    {left right : Expression} (member : operator ∈ family.members)
    (left_inferred : left.infer scope = .ok type) (right_inferred : right.infer scope = .ok type)
    (prescribed : ∀ expected, family.operand? = some expected → type = expected.token) :
    (Expression.binary operator left right).infer scope = .ok family.result.token := by
  refine infer_binary_eq_ok_iff.mpr ⟨type, type, left_inferred, right_inferred, ?_⟩
  refine binaryType_eq_ok_iff.mpr ⟨family, ?_, rfl, prescribed, rfl⟩
  exact OperatorFamily.ofOperator?_eq_some_iff.mpr member

/-- Inferred types are given by the rules. -/
theorem hasType_of_infer {expression : Expression} {type : Text}
    (inferred : expression.infer scope = .ok type) : expression.HasType scope type := by
  induction expression generalizing type with
  | integer value =>
      cases inferred
      exact .integer
  | boolean value =>
      cases inferred
      exact .boolean
  | «variable» name =>
      cases found : scope.find? name with
      | none => simp [infer, found] at inferred
      | some declared =>
          rw [infer, found] at inferred
          cases inferred
          exact .variable found
  | query name =>
      cases found : queryType? name with
      | none => simp [infer, found] at inferred
      | some given =>
          rw [infer, found] at inferred
          cases inferred
          rcases queryType?_eq_some_iff.mp found with ⟨member, rfl⟩ | ⟨member, rfl⟩
          · exact .position member
          · exact .finding member
  | unary operator operand ih =>
      obtain ⟨operandType, operand_inferred, combined⟩ := infer_unary_eq_ok_iff.mp inferred
      obtain ⟨sign, known, rfl, rfl⟩ := unaryType_eq_ok_iff.mp combined
      rcases Sign.ofOperator?_eq_some_iff.mp known with ⟨rfl, rfl⟩ | ⟨rfl, rfl⟩
      · exact .minus (ih operand_inferred)
      · exact .not (ih operand_inferred)
  | binary operator left right left_ih right_ih =>
      obtain ⟨leftType, rightType, left_inferred, right_inferred, combined⟩ :=
        infer_binary_eq_ok_iff.mp inferred
      obtain ⟨family, known, rfl, prescribed, rfl⟩ := binaryType_eq_ok_iff.mp combined
      exact .of_family (OperatorFamily.ofOperator?_eq_some_iff.mp known) (left_ih left_inferred)
        (right_ih right_inferred) prescribed

/-- Types given by the rules are inferred. -/
theorem infer_of_hasType {expression : Expression} {type : Text}
    (typed : expression.HasType scope type) : expression.infer scope = .ok type := by
  induction typed with
  | integer => rfl
  | boolean => rfl
  | «variable» found => rw [infer, found]
  | position member =>
      rw [infer, queryType?_eq_some_iff.mpr (.inl ⟨member, rfl⟩)]
      rfl
  | finding member =>
      rw [infer, queryType?_eq_some_iff.mpr (.inr ⟨member, rfl⟩)]
      rfl
  | minus _ ih =>
      refine infer_unary_eq_ok_iff.mpr ⟨_, ih, unaryType_eq_ok_iff.mpr ⟨.minus, ?_, rfl, rfl⟩⟩
      exact Sign.ofOperator?_eq_some_iff.mpr (.inl ⟨rfl, rfl⟩)
  | not _ ih =>
      refine infer_unary_eq_ok_iff.mpr ⟨_, ih, unaryType_eq_ok_iff.mpr ⟨.not, ?_, rfl, rfl⟩⟩
      exact Sign.ofOperator?_eq_some_iff.mpr (.inr ⟨rfl, rfl⟩)
  | arithmetic member _ _ left_ih right_ih =>
      exact infer_binary_of_family .arithmetic member left_ih right_ih (by rintro _ ⟨⟩; rfl)
  | relational member _ _ left_ih right_ih =>
      exact infer_binary_of_family .relational member left_ih right_ih (by rintro _ ⟨⟩; rfl)
  | logical member _ _ left_ih right_ih =>
      exact infer_binary_of_family .logical member left_ih right_ih (by rintro _ ⟨⟩; rfl)
  | equality member _ _ left_ih right_ih =>
      exact infer_binary_of_family .equality member left_ih right_ih nofun

/-- The expressions that an expression is made of, at any depth, and the expression itself. -/
def parts : Expression → List Expression
  | .unary operator operand => .unary operator operand :: operand.parts
  | .binary operator left right => .binary operator left right :: (left.parts ++ right.parts)
  | leaf => [leaf]

/-- The name that an expression shows at its root is that of something known. -/
def RootKnown (scope : Scope) : Expression → Prop
  | .integer _ | .boolean _ => True
  | .variable name => (scope.find? name).isSome
  | .query name => name ∈ positionQueries ++ findingQueries
  | .unary operator _ => operator ∈ (["-", "~"] : List Text)
  | .binary operator _ _ =>
    operator ∈ arithmeticOperators ++ relationalOperators ++ logicalOperators ++ equalityOperators

theorem HasType.rootKnown {expression : Expression} {type : Text}
    (typed : expression.HasType scope type) : expression.RootKnown scope := by
  cases typed with
  | integer => trivial
  | boolean => trivial
  | «variable» found => simp [RootKnown, found]
  | minus => simp [RootKnown]
  | not => simp [RootKnown]
  | _ member => simp [RootKnown, member]

theorem HasType.operand {operator type : Text} {operand : Expression}
    (typed : (Expression.unary operator operand).HasType scope type) :
    ∃ operandType, operand.HasType scope operandType := by
  cases typed with
  | minus operand_typed => exact ⟨_, operand_typed⟩
  | not operand_typed => exact ⟨_, operand_typed⟩

theorem HasType.operands {operator type : Text} {left right : Expression}
    (typed : (Expression.binary operator left right).HasType scope type) :
    ∃ operandType, left.HasType scope operandType ∧ right.HasType scope operandType := by
  cases typed with
  | arithmetic _ left_typed right_typed => exact ⟨_, left_typed, right_typed⟩
  | relational _ left_typed right_typed => exact ⟨_, left_typed, right_typed⟩
  | logical _ left_typed right_typed => exact ⟨_, left_typed, right_typed⟩
  | equality _ left_typed right_typed => exact ⟨_, left_typed, right_typed⟩

/-- What an expression with a type is made of has a type, too. -/
theorem HasType.of_mem_parts {expression part : Expression} {type : Text}
    (typed : expression.HasType scope type) (member : part ∈ expression.parts) :
    ∃ partType, part.HasType scope partType := by
  induction expression generalizing type with
  | unary operator operand ih =>
      rcases List.mem_cons.mp member with rfl | inside
      · exact ⟨type, typed⟩
      · obtain ⟨operandType, operand_typed⟩ := typed.operand
        exact ih operand_typed inside
  | binary operator left right left_ih right_ih =>
      obtain ⟨operandType, left_typed, right_typed⟩ := typed.operands
      rcases List.mem_cons.mp member with rfl | inside
      · exact ⟨type, typed⟩
      · rcases List.mem_append.mp inside with in_left | in_right
        · exact left_ih left_typed in_left
        · exact right_ih right_typed in_right
  | _ =>
      obtain rfl := List.mem_singleton.mp member
      exact ⟨type, typed⟩

/-- Inference finds exactly the types that the rules give; there is at most one, and an expression
that has one is made of known names at every depth. -/
theorem infer_eq_ok_iff_hasType (scope : Scope) (expression : Expression) :
    (∀ type, expression.infer scope = .ok type ↔ expression.HasType scope type) ∧
      (∀ type other, expression.HasType scope type → expression.HasType scope other →
        type = other) ∧
      ∀ type, expression.infer scope = .ok type →
        ∀ part ∈ expression.parts, part.RootKnown scope := by
  refine ⟨fun type => ⟨hasType_of_infer, infer_of_hasType⟩, ?_, ?_⟩
  · intro type other typed typed_otherwise
    have same := (infer_of_hasType typed).symm.trans (infer_of_hasType typed_otherwise)
    exact Except.ok.inj same
  · intro type inferred part member
    obtain ⟨partType, part_typed⟩ := (hasType_of_infer inferred).of_mem_parts member
    exact part_typed.rootKnown

/-- Two colours are compared, and the position of the robot with a negative number. -/
def sighted : Expression :=
  .unary "~" (.binary "&" (.binary "!=" (.variable "seen") (.variable "wanted"))
    (.binary "<=" (.unary "-" (.integer 3)) (.query "PosAv")))

/-- Types of any name can be compared with themselves. -/
theorem sighted_typed :
    sighted.infer ⟨[("seen", "color"), ("wanted", "color")]⟩ = .ok "boolean" ∧
      sighted.HasType ⟨[("seen", "color"), ("wanted", "color")]⟩ "boolean" ∧
      ∀ part ∈ sighted.parts, part.RootKnown ⟨[("seen", "color"), ("wanted", "color")]⟩ := by
  have inferred : sighted.infer ⟨[("seen", "color"), ("wanted", "color")]⟩ = .ok "boolean" := rfl
  have decided := infer_eq_ok_iff_hasType ⟨[("seen", "color"), ("wanted", "color")]⟩ sighted
  exact ⟨inferred, (decided.1 "boolean").mp inferred, decided.2.2 "boolean" inferred⟩

end Expression
end RobotCity
