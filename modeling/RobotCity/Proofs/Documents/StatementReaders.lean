import RobotCity.Proofs.Documents.Readers
import RobotCity.Proofs.Documents.Reading

/-!
# Readers of expressions and statements

Expressions and statements are read as they are spelled.  The tag of an object decides what is read
of it; an object with an unknown tag spells nothing, and its tag is its only defect.
-/

namespace RobotCity

open Json (member member?)

variable {α : Type}

theorem ValueType.lookup_eq_some_iff (word : Text) (type : ValueType) :
    tokens.lookup word = some type ↔ word = type.token := by
  rw [NameTable.lookup_eq_some_iff_mem (by decide)]
  cases type <;> simp [tokens, token]

theorem Occupancy.lookup_eq_some_iff (word : Text) (occupancy : Occupancy) :
    tokens.lookup word = some occupancy ↔ word = occupancy.token := by
  rw [NameTable.lookup_eq_some_iff_mem (by decide)]
  cases occupancy <;> simp [tokens, token]

theorem Passing.lookup_eq_some_iff (word : Text) (passing : Passing) :
    tokens.lookup word = some passing ↔ word = passing.token := by
  rw [NameTable.lookup_eq_some_iff_mem (by decide)]
  cases passing <;> simp [tokens, token]

theorem MessageMode.lookup_eq_some_iff (word : Text) (mode : MessageMode) :
    tokens.lookup word = some mode ↔ word = mode.token := by
  rw [NameTable.lookup_eq_some_iff_mem (by decide)]
  cases mode <;> simp [tokens, token]

theorem CornerMode.lookup_eq_some_iff (word : Text) (mode : CornerMode) :
    tokens.lookup word = some mode ↔ word = mode.token := by
  rw [NameTable.lookup_eq_some_iff_mem (by decide)]
  cases mode <;> simp [tokens, token]

/-! ## Expressions -/

theorem findTag_eq_some_iff {members : List (Text × Json)} {ofToken? : Text → Option α}
    {token : α → Text} (known : ∀ word tag, ofToken? word = some tag ↔ word = token tag) {tag : α} :
    findTag ofToken? members = some tag ↔ member members "type" = .string (token tag) := by
  rw [findTag, tagOf]
  cases member members "type" <;> simp [known]

theorem token_of_find? {token : α → Text} {all : List α} {word : Text} {tag : α}
    (found : all.find? (fun tag => token tag == word) = some tag) : word = token tag := by
  have same := List.find?_some found
  exact (eq_of_beq same).symm

theorem ExpressionTag.ofToken?_eq_some_iff (word : Text) (tag : ExpressionTag) :
    ofToken? word = some tag ↔ word = tag.token := by
  constructor
  · intro found
    exact token_of_find? found
  · rintro rfl
    exact ofToken?_token tag

theorem StatementTag.ofToken?_eq_some_iff (word : Text) (tag : StatementTag) :
    ofToken? word = some tag ↔ word = tag.token := by
  constructor
  · intro found
    exact token_of_find? found
  · rintro rfl
    exact ofToken?_token tag

namespace Expression

/-- The tag of an expression. -/
def tag : Expression → ExpressionTag
  | .integer _ => .integer
  | .boolean _ => .boolean
  | .variable _ => .variable
  | .query _ => .query
  | .unary _ _ => .unary
  | .binary _ _ _ => .binary

theorem Spelled.findTag_eq {members : List (Text × Json)} {part : Expression}
    (spelled : part.Spelled (.object members)) :
    findTag ExpressionTag.ofToken? members = some part.tag := by
  rw [findTag_eq_some_iff ExpressionTag.ofToken?_eq_some_iff]
  cases spelled <;> assumption

/-- How an expression is spelled in an object that has its tag. -/
def SpelledUnder (members : List (Text × Json)) : ExpressionTag → Expression → Prop
  | .integer, part => ∃ value, member members "value" = .integer value ∧ part = .integer value
  | .boolean, part => ∃ value, member members "value" = .boolean value ∧ part = .boolean value
  | .variable, part =>
    ∃ name, member members "identifier" = .string name ∧ part = .variable name
  | .query, part => ∃ name, member members "identifier" = .string name ∧ part = .query name
  | .unary, part => ∃ operator, member members "operator" = .string operator ∧
    ∃ operand, Spelled (member members "rhs") operand ∧ part = .unary operator operand
  | .binary, part => ∃ operator, member members "operator" = .string operator ∧
    ∃ left, Spelled (member members "lhs") left ∧
    ∃ right, Spelled (member members "rhs") right ∧ part = .binary operator left right

theorem spelled_iff_spelledUnder {members : List (Text × Json)} {tag : ExpressionTag}
    (found : findTag ExpressionTag.ofToken? members = some tag) (part : Expression) :
    part.Spelled (.object members) ↔ SpelledUnder members tag part := by
  constructor
  · intro spelled
    obtain rfl : part.tag = tag := Option.some.inj (spelled.findTag_eq.symm.trans found)
    cases spelled with
    | integer _ value => exact ⟨_, value, rfl⟩
    | boolean _ value => exact ⟨_, value, rfl⟩
    | «variable» _ name => exact ⟨_, name, rfl⟩
    | query _ name => exact ⟨_, name, rfl⟩
    | unary _ operator operand => exact ⟨_, operator, _, operand, rfl⟩
    | binary _ operator left right => exact ⟨_, operator, _, left, _, right, rfl⟩
  · have typed := (findTag_eq_some_iff ExpressionTag.ofToken?_eq_some_iff).mp found
    cases tag with
    | integer =>
        rintro ⟨_, value, rfl⟩
        exact .integer typed value
    | boolean =>
        rintro ⟨_, value, rfl⟩
        exact .boolean typed value
    | «variable» =>
        rintro ⟨_, name, rfl⟩
        exact .variable typed name
    | query =>
        rintro ⟨_, name, rfl⟩
        exact .query typed name
    | unary =>
        rintro ⟨_, operator, _, operand, rfl⟩
        exact .unary typed operator operand
    | binary =>
        rintro ⟨_, operator, _, left, _, right, rfl⟩
        exact .binary typed operator left right

theorem reads_of_not_object {value : Json} (not_object : ∀ members, value ≠ .object members) :
    ReadsForm .expression Spelled Expression.ofJson value := by
  intro place
  rw [Spot.defects_of_not_object not_object, Expression.ofJson]
  · refine .refused fun part spelled => ?_
    cases spelled <;> exact not_object _ rfl
  · exact not_object

/-- An expression with a tag is read as it is spelled under this tag. -/
theorem ofJson_reads_under {members : List (Text × Json)} {tag : ExpressionTag} (place : Place)
    (found : findTag ExpressionTag.ofToken? members = some tag)
    (lhs_reads : ReadsForm .expression Spelled Expression.ofJson (member members "lhs"))
    (rhs_reads : ReadsForm .expression Spelled Expression.ofJson (member members "rhs")) :
    Reads (SpelledUnder members tag)
      (tag.slots.flatMap fun (name, slot) => slot.defects place members name)
      (Expression.ofJson place (.object members)) := by
  rw [Expression.ofJson, found]
  cases tag with
  | integer =>
      have value := readInteger_reads place members "value"
      exact (value.bind fun _ _ => .pure _).congr (fun _ => Iff.rfl)
        (by simp [ExpressionTag.slots])
  | boolean =>
      have value := readBoolean_reads place members "value"
      exact (value.bind fun _ _ => .pure _).congr (fun _ => Iff.rfl)
        (by simp [ExpressionTag.slots])
  | «variable» =>
      have name := readText_reads place members "identifier"
      exact (name.bind fun _ _ => .pure _).congr (fun _ => Iff.rfl)
        (by simp [ExpressionTag.slots])
  | query =>
      have name := readText_reads place members "identifier"
      exact (name.bind fun _ _ => .pure _).congr (fun _ => Iff.rfl)
        (by simp [ExpressionTag.slots])
  | unary =>
      have operator := readText_reads place members "operator"
      have operand := rhs_reads (place.field "rhs")
      exact (operator.bind fun _ _ => operand.bind fun _ _ => .pure _).congr (fun _ => Iff.rfl)
        (by simp [ExpressionTag.slots])
  | binary =>
      have operator := readText_reads place members "operator"
      have left := lhs_reads (place.field "lhs")
      have right := rhs_reads (place.field "rhs")
      exact (operator.bind fun _ _ => left.bind fun _ _ => right.bind fun _ _ => .pure _).congr
        (fun _ => Iff.rfl) (by simp [ExpressionTag.slots])

/-- An expression is read as it is spelled. -/
theorem ofJson_reads (value : Json) : ReadsForm .expression Spelled Expression.ofJson value := by
  intro place
  cases value with
  | object members =>
      have lhs_reads := ofJson_reads (member members "lhs")
      have rhs_reads := ofJson_reads (member members "rhs")
      cases found : findTag ExpressionTag.ofToken? members with
      | none =>
          rw [Spot.defects_of_unknown (by rw [Form.slots, Form.expressionSlots, found]),
            Expression.ofJson, found]
          refine .refused fun part spelled => ?_
          cases found.symm.trans spelled.findTag_eq
      | some tag =>
          have known : Form.slots .expression members = .ok tag.slots := by
            rw [Form.slots, Form.expressionSlots, found]
          exact (ofJson_reads_under place found lhs_reads rhs_reads).congr
            (spelled_iff_spelledUnder found) (Spot.defects_of_slots known)
  | _ => exact reads_of_not_object (by simp) place
termination_by sizeOf value
decreasing_by
  all_goals
    subst_vars
    exact Json.sizeOf_member_lt members _

end Expression

theorem readOptionalExpression_reads (place : Place) (members : List (Text × Json))
    (name : String) :
    Reads ((member members name).SpellsIfGiven Expression.Spelled)
      ((Slot.part .ifGiven .expression).defects place members name)
      (readOptionalExpression place members name) := by
  rw [readOptionalExpression, Slot.defects_part_ifGiven]
  split
  case isTrue given =>
    refine ((Expression.ofJson_reads _ _).bind fun value _ => .pure (some value)).congr
      (fun part => ⟨?_, ?_⟩) (by simp)
    · rintro (nothing | ⟨-, spelled⟩)
      · rw [nothing] at given
        cases given
      · exact ⟨_, spelled, rfl⟩
    · rintro ⟨value, spelled, rfl⟩
      exact .given given spelled
  case isFalse not_given =>
    refine .found fun part => ⟨?_, ?_⟩
    · rintro (nothing | ⟨given, -⟩)
      · rfl
      · exact absurd given not_given
    · rintro rfl
      exact .nothing (by simpa using not_given)

namespace Notice

theorem findTag_eq_none {members : List (Text × Json)} (is_text : tagOf members = .string textTag) :
    findTag ExpressionTag.ofToken? members = none := by
  rw [findTag, is_text]
  decide

/-- What `Informar` shows first is read as it is spelled. -/
theorem ofJson_reads (value : Json) : ReadsForm .notice Spelled Notice.ofJson value := by
  intro place
  cases value with
  | object members =>
      rw [Notice.ofJson, readObject, ok_bind]
      split
      case isTrue is_text =>
        rw [Spot.defects_of_slots (by rw [Form.slots, if_pos is_text])]
        refine ((readText_reads place members "value").bind fun content _ =>
          .pure (Notice.text content)).congr (fun part => ⟨?_, ?_⟩) (by simp)
        · rintro (⟨-, content⟩ | expression)
          · exact ⟨_, content, rfl⟩
          · cases (findTag_eq_none is_text).symm.trans expression.findTag_eq
        · rintro ⟨content, written, rfl⟩
          exact .text is_text written
      case isFalse not_text =>
        have same : Form.slots .notice members = Form.slots .expression members := by
          rw [Form.slots, if_neg not_text, Form.slots]
        rw [Spot.defects_congr same]
        refine ((Expression.ofJson_reads (.object members) place).bind fun value _ =>
          .pure (Notice.value value)).congr (fun part => ⟨?_, ?_⟩) (by simp)
        · rintro (⟨is_text, -⟩ | expression)
          · exact absurd is_text not_text
          · exact ⟨_, expression, rfl⟩
        · rintro ⟨value, spelled, rfl⟩
          exact .value spelled
  | _ =>
      rw [Spot.defects_of_not_object (by simp)]
      refine .refused fun part spelled => ?_
      cases spelled with
      | value expression => cases expression

end Notice

/-! ## Statements -/

namespace Statement

/-- The tag of a statement. -/
def tag : Statement → StatementTag
  | .assign _ _ => .assign
  | .block _ => .block
  | .ifThen _ _ => .branch
  | .ifElse _ _ _ => .branch
  | .times _ _ => .times
  | .loop _ _ => .loop
  | .inform _ _ => .inform
  | .moveTo _ _ => .moveTo
  | .exchange _ _ _ => .exchange
  | .corner _ _ _ => .corner
  | .call _ _ => .call

theorem Spelled.findTag_eq {members : List (Text × Json)} {part : Statement}
    (spelled : part.Spelled (.object members)) :
    findTag StatementTag.ofToken? members = some part.tag := by
  rw [findTag_eq_some_iff StatementTag.ofToken?_eq_some_iff]
  cases spelled <;> assumption

/-- How a statement is spelled in an object that has its tag. -/
def SpelledUnder (members : List (Text × Json)) : StatementTag → Statement → Prop
  | .assign, part => ∃ target, member members "identifier" = .string target ∧
    ∃ value, Expression.Spelled (member members "value") value ∧ part = .assign target value
  | .block, part => ∃ body, Json.Lists Spelled members "body" body ∧ part = .block body
  | .branch, part => ∃ condition, Expression.Spelled (member members "condition") condition ∧
    ∃ body, Spelled (member members "body") body ∧
    if (member members "else_body").isGiven then
      ∃ otherwise, Spelled (member members "else_body") otherwise ∧
        part = .ifElse condition body otherwise
    else part = .ifThen condition body
  | .times, part => ∃ count, Expression.Spelled (member members "condition") count ∧
    ∃ body, Spelled (member members "body") body ∧ part = .times count body
  | .loop, part => ∃ condition, Expression.Spelled (member members "condition") condition ∧
    ∃ body, Spelled (member members "body") body ∧ part = .loop condition body
  | .inform, part => ∃ notice, Notice.Spelled (member members "arg1") notice ∧
    ∃ value, (member members "arg2").SpellsIfGiven Expression.Spelled value ∧
    part = .inform notice value
  | .moveTo, part => ∃ x, Expression.Spelled (member members "x") x ∧
    ∃ y, Expression.Spelled (member members "y") y ∧ part = .moveTo x y
  | .exchange, part => ∃ mode : MessageMode, member members "mode" = .string mode.token ∧
    ∃ value, Expression.Spelled (member members "value") value ∧
    ∃ recipient, member members "who" = .string recipient ∧ part = .exchange mode value recipient
  | .corner, part => ∃ mode : CornerMode, member members "mode" = .string mode.token ∧
    ∃ x, Expression.Spelled (member members "x") x ∧
    ∃ y, Expression.Spelled (member members "y") y ∧ part = .corner mode x y
  | .call, part => ∃ procedure, member members "identifier" = .string procedure ∧
    ∃ arguments, Json.ListsIfNamed Expression.Spelled members "parameters" arguments ∧
    part = .call procedure arguments

theorem spelled_iff_spelledUnder {members : List (Text × Json)} {tag : StatementTag}
    (found : findTag StatementTag.ofToken? members = some tag) (part : Statement) :
    part.Spelled (.object members) ↔ SpelledUnder members tag part := by
  constructor
  · intro spelled
    obtain rfl : part.tag = tag := Option.some.inj (spelled.findTag_eq.symm.trans found)
    cases spelled with
    | assign _ target value => exact ⟨_, target, _, value, rfl⟩
    | block _ there each => exact ⟨_, .all there each, rfl⟩
    | ifThen _ condition body not_given =>
        exact ⟨_, condition, _, body, by rw [if_neg (by simp [not_given])]⟩
    | ifElse _ condition body given otherwise =>
        exact ⟨_, condition, _, body, by rw [if_pos given]; exact ⟨_, otherwise, rfl⟩⟩
    | times _ count body => exact ⟨_, count, _, body, rfl⟩
    | loop _ condition body => exact ⟨_, condition, _, body, rfl⟩
    | inform _ notice value => exact ⟨_, notice, _, value, rfl⟩
    | moveTo _ x y => exact ⟨_, x, _, y, rfl⟩
    | exchange _ mode value recipient => exact ⟨_, mode, _, value, _, recipient, rfl⟩
    | corner _ mode x y => exact ⟨_, mode, _, x, _, y, rfl⟩
    | call _ procedure arguments => exact ⟨_, procedure, _, arguments, rfl⟩
  · have typed := (findTag_eq_some_iff StatementTag.ofToken?_eq_some_iff).mp found
    cases tag with
    | assign =>
        rintro ⟨_, target, _, value, rfl⟩
        exact .assign typed target value
    | block =>
        rintro ⟨_, ⟨there, each⟩, rfl⟩
        exact .block typed there each
    | branch =>
        rintro ⟨_, condition, _, body, rest⟩
        split at rest
        case isTrue given =>
          obtain ⟨_, otherwise, rfl⟩ := rest
          exact .ifElse typed condition body given otherwise
        case isFalse not_given =>
          subst rest
          exact .ifThen typed condition body (by simpa using not_given)
    | times =>
        rintro ⟨_, count, _, body, rfl⟩
        exact .times typed count body
    | loop =>
        rintro ⟨_, condition, _, body, rfl⟩
        exact .loop typed condition body
    | inform =>
        rintro ⟨_, notice, _, value, rfl⟩
        exact .inform typed notice value
    | moveTo =>
        rintro ⟨_, x, _, y, rfl⟩
        exact .moveTo typed x y
    | exchange =>
        rintro ⟨_, mode, _, value, _, recipient, rfl⟩
        exact .exchange typed mode value recipient
    | corner =>
        rintro ⟨_, mode, _, x, _, y, rfl⟩
        exact .corner typed mode x y
    | call =>
        rintro ⟨_, procedure, _, arguments, rfl⟩
        exact .call typed procedure arguments

theorem reads_of_not_object {value : Json} (not_object : ∀ members, value ≠ .object members) :
    ReadsForm .statement Spelled Statement.ofJson value := by
  intro place
  rw [Spot.defects_of_not_object not_object, Statement.ofJson]
  · refine .refused fun part spelled => ?_
    cases spelled <;> exact not_object _ rfl
  · exact not_object

theorem block_reads (place : Place) {members : List (Text × Json)}
    (items_read : ∀ items, member? members "body" = some (.array items) →
      ∀ item ∈ items, ReadsForm .statement Spelled Statement.ofJson item) :
    Reads (SpelledUnder members .block) ((Slot.list true .statement).defects place members "body")
      (match _ : readList place members "body" with
      | .error error => .error error
      | .ok items => do return .block (← bodyOfJson (place.field "body") 0 items)) := by
  have reads := (readList_reads place items_read).bind fun body _ =>
    Reads.pure (Statement.block body)
  rw [List.append_nil] at reads
  split
  · rename_i error refused
    rwa [refused] at reads
  · rename_i items found
    rw [found] at reads
    rwa [bodyOfJson_eq_readEach]

theorem otherwise_reads (place : Place) {members : List (Text × Json)}
    (else_reads : ReadsForm .statement Spelled Statement.ofJson (member members "else_body"))
    (condition : Expression) (body : Statement) :
    Reads
      (fun part : Statement => if (member members "else_body").isGiven then
        ∃ otherwise, Spelled (member members "else_body") otherwise ∧
          part = .ifElse condition body otherwise
      else part = .ifThen condition body)
      ((Slot.part .ifGiven .statement).defects place members "else_body")
      (if (member members "else_body").isGiven then do
        let otherwise ← Statement.ofJson (place.field "else_body") (member members "else_body")
        return Statement.ifElse condition body otherwise
      else return Statement.ifThen condition body) := by
  rw [Slot.defects_part_ifGiven]
  split
  · have otherwise := else_reads (place.field "else_body")
    exact (otherwise.bind fun _ _ => .pure _).congr (fun _ => Iff.rfl) (by simp)
  · exact .pure _

/-- A statement with a tag is read as it is spelled under this tag. -/
theorem ofJson_reads_under {members : List (Text × Json)} {tag : StatementTag} (place : Place)
    (found : findTag StatementTag.ofToken? members = some tag)
    (body_reads : ReadsForm .statement Spelled Statement.ofJson (member members "body"))
    (else_reads : ReadsForm .statement Spelled Statement.ofJson (member members "else_body"))
    (items_read : ∀ items, member? members "body" = some (.array items) →
      ∀ item ∈ items, ReadsForm .statement Spelled Statement.ofJson item) :
    Reads (SpelledUnder members tag)
      (tag.slots.flatMap fun (name, slot) => slot.defects place members name)
      (Statement.ofJson place (.object members)) := by
  have expression (name : String) :=
    Expression.ofJson_reads (member members name) (place.field name)
  have body := body_reads (place.field "body")
  rw [Statement.ofJson, found]
  cases tag with
  | assign =>
      have target := readText_reads place members "identifier"
      exact (target.bind fun _ _ => (expression "value").bind fun _ _ => .pure _).congr
        (fun _ => Iff.rfl) (by simp [StatementTag.slots])
  | block =>
      exact (block_reads place items_read).congr (fun _ => Iff.rfl) (by simp [StatementTag.slots])
  | branch =>
      have otherwise := otherwise_reads place else_reads
      exact ((expression "condition").bind fun _ _ => body.bind fun _ _ => otherwise _ _).congr
        (fun _ => Iff.rfl) (by simp [StatementTag.slots])
  | times =>
      exact ((expression "condition").bind fun _ _ => body.bind fun _ _ => .pure _).congr
        (fun _ => Iff.rfl) (by simp [StatementTag.slots])
  | loop =>
      exact ((expression "condition").bind fun _ _ => body.bind fun _ _ => .pure _).congr
        (fun _ => Iff.rfl) (by simp [StatementTag.slots])
  | inform =>
      have notice := Notice.ofJson_reads (member members "arg1") (place.field "arg1")
      have value := readOptionalExpression_reads place members "arg2"
      exact (notice.bind fun _ _ => value.bind fun _ _ => .pure _).congr
        (fun _ => Iff.rfl) (by simp [StatementTag.slots])
  | moveTo =>
      exact ((expression "x").bind fun _ _ => (expression "y").bind fun _ _ => .pure _).congr
        (fun _ => Iff.rfl) (by simp [StatementTag.slots])
  | exchange =>
      have mode := readToken_reads place members "mode" MessageMode.lookup_eq_some_iff
      have recipient := readText_reads place members "who"
      exact (mode.bind fun _ _ => (expression "value").bind fun _ _ =>
        recipient.bind fun _ _ => .pure _).congr (fun _ => Iff.rfl) (by simp [StatementTag.slots])
  | corner =>
      have mode := readToken_reads place members "mode" CornerMode.lookup_eq_some_iff
      exact (mode.bind fun _ _ => (expression "x").bind fun _ _ =>
        (expression "y").bind fun _ _ => .pure _).congr
        (fun _ => Iff.rfl) (by simp [StatementTag.slots])
  | call =>
      have procedure := readText_reads place members "identifier"
      have arguments : Reads (Json.ListsIfNamed Expression.Spelled members "parameters") _ _ :=
        readOptionalList_reads place fun _ _ item _ => Expression.ofJson_reads item
      exact (procedure.bind fun _ _ => arguments.bind_bind fun _ _ => .pure _).congr
        (fun _ => Iff.rfl) (by simp [StatementTag.slots])

/-- A statement is read as it is spelled. -/
theorem ofJson_reads (value : Json) : ReadsForm .statement Spelled Statement.ofJson value := by
  intro place
  cases value with
  | object members =>
      have body_reads := ofJson_reads (member members "body")
      have else_reads := ofJson_reads (member members "else_body")
      have items_read : ∀ items, member? members "body" = some (.array items) →
          ∀ item ∈ items, ReadsForm .statement Spelled Statement.ofJson item :=
        fun items found item item_member => ofJson_reads item
      cases found : findTag StatementTag.ofToken? members with
      | none =>
          rw [Spot.defects_of_unknown (by rw [Form.slots, Form.statementSlots, found]),
            Statement.ofJson, found]
          refine .refused fun part spelled => ?_
          cases found.symm.trans spelled.findTag_eq
      | some tag =>
          have known : Form.slots .statement members = .ok tag.slots := by
            rw [Form.slots, Form.statementSlots, found]
          exact (ofJson_reads_under place found body_reads else_reads items_read).congr
            (spelled_iff_spelledUnder found) (Spot.defects_of_slots known)
  | _ => exact reads_of_not_object (by simp) place
termination_by sizeOf value
decreasing_by
  -- The parts of a statement stand under its names, those of a block in a list under a name.
  all_goals
    subst_vars
    first
      | exact Json.sizeOf_member_lt members _
      | exact Json.sizeOf_item_lt found item_member

end Statement

end RobotCity
