import RobotCity.Proofs.Documents.ProgramReaders

/-!
# Agreement of documents

Two documents agree if whatever is read of one of them is found in the other one under the same
name.  In which order the members of an object stand, and what stands under names that are not read,
does not count, at whatever depth.  Documents that agree spell the same parts.
-/

namespace RobotCity

open Json (member member?)

/-- How a value is read. -/
inductive Manner where
  /-- As it is. -/
  | whole
  /-- Item by item, each of them an object of a form. -/
  | items (form : Form)
  /-- As an object of a form. -/
  | members (form : Form)

/-- How the value under a name is read. -/
def Slot.manner : Slot → Manner
  | .list _ form => .items form
  | .part _ form => .members form
  | _ => .whole

/-- Two values agree in what is read of them. -/
inductive Agrees : Manner → Json → Json → Prop
  | same {manner : Manner} {value : Json} : Agrees manner value value
  | items {form : Form} {items others : List Json} : items.length = others.length →
    (∀ (index : Nat) (item other : Json), items[index]? = some item →
      others[index]? = some other → Agrees (.members form) item other) →
    Agrees (.items form) (.array items) (.array others)
  | members {form : Form} {members others : List (Text × Json)} :
    (form.isTagged → tagOf members = tagOf others) →
    (∀ name slot, form.HasSlot members name slot →
      (member? members name).isSome = (member? others name).isSome) →
    (∀ name part, form.HasSlot members name (.part .ifGiven part) →
      (member members name).isGiven = (member others name).isGiven) →
    (∀ (name : String) (slot : Slot) (value other : Json), form.HasSlot members name slot →
      member? members name = some value → member? others name = some other →
      Agrees slot.manner value other) →
    Agrees (.members form) (.object members) (.object others)

/-- Two objects agree in what is read of their members. -/
structure MembersAgree (form : Form) (members others : List (Text × Json)) : Prop where
  tag : form.isTagged → tagOf members = tagOf others
  given : ∀ {name part}, form.HasSlot members name (.part .ifGiven part) →
    (member members name).isGiven = (member others name).isGiven
  missing : ∀ {name slot}, form.HasSlot members name slot →
    member? members name = none → member? others name = none
  named : ∀ {name slot value}, form.HasSlot members name slot → member? members name = some value →
    ∃ other, member? others name = some other ∧ Agrees slot.manner value other

theorem Agrees.membersAgree {form : Form} {members : List (Text × Json)} {other : Json}
    (agrees : Agrees (.members form) (.object members) other) :
    ∃ others, other = .object others ∧ MembersAgree form members others := by
  cases agrees with
  | same =>
      exact ⟨members, rfl, fun _ => rfl, fun _ => rfl, fun _ missing => missing,
        fun _ named => ⟨_, named, .same⟩⟩
  | @members _ _ others tag present given values =>
      refine ⟨others, rfl, tag, given _ _, fun slot missing => ?_, fun slot named => ?_⟩
      · have absent := present _ _ slot
        rw [missing] at absent
        simpa using absent.symm
      · have there := present _ _ slot
        rw [named] at there
        obtain ⟨other, found⟩ := Option.isSome_iff_exists.mp there.symm
        exact ⟨other, found, values _ _ _ _ slot named found⟩

theorem MembersAgree.agrees {form : Form} {members others : List (Text × Json)}
    (agree : MembersAgree form members others) :
    Agrees (.members form) (.object members) (.object others) := by
  refine .members agree.tag (fun name slot slot_read => ?_) (fun _ _ => agree.given)
    (fun name slot value other slot_read found found_other => ?_)
  · cases found : member? members name with
    | none => rw [agree.missing slot_read found]
    | some value =>
        obtain ⟨other, found_other, -⟩ := agree.named slot_read found
        rw [found_other, Option.isSome_some, Option.isSome_some]
  · obtain ⟨named, found_named, agrees⟩ := agree.named slot_read found
    cases found_other.symm.trans found_named
    exact agrees

/-- Forms of which the same is read agree in the same objects. -/
theorem MembersAgree.of_slots_eq {form same_form : Form} {members others : List (Text × Json)}
    (agree : MembersAgree form members others)
    (same : form.slots members = same_form.slots members)
    (tagged : same_form.isTagged → form.isTagged) : MembersAgree same_form members others := by
  have slot_read : ∀ {name slot}, same_form.HasSlot members name slot →
      form.HasSlot members name slot := by
    rintro name slot ⟨slots, known, listed⟩
    exact ⟨slots, same.trans known, listed⟩
  exact ⟨fun counts => agree.tag (tagged counts), fun slot => agree.given (slot_read slot),
    fun slot => agree.missing (slot_read slot), fun slot => agree.named (slot_read slot)⟩

theorem Agrees.eq_of_whole {value other : Json} (agrees : Agrees .whole value other) :
    other = value := by
  cases agrees
  rfl

namespace MembersAgree

variable {form : Form} {members others : List (Text × Json)} {name : String} {slot : Slot}

theorem member_agrees (agree : MembersAgree form members others)
    (slot_read : form.HasSlot members name slot) :
    Agrees slot.manner (member members name) (member others name) := by
  rw [member, member]
  cases found : member? members name with
  | none =>
      rw [agree.missing slot_read found]
      exact .same
  | some value =>
      obtain ⟨other, found_other, agrees⟩ := agree.named slot_read found
      rw [found_other]
      exact agrees

/-- What is read as it is, is the same. -/
theorem member_eq (agree : MembersAgree form members others)
    (slot_read : form.HasSlot members name slot) (as_it_is : slot.manner = .whole) :
    member others name = member members name := by
  have agrees := agree.member_agrees slot_read
  rw [as_it_is] at agrees
  exact agrees.eq_of_whole

theorem text {content : Text} (agree : MembersAgree form members others)
    (slot_read : form.HasSlot members name .text)
    (written : member members name = .string content) : member others name = .string content :=
  (agree.member_eq slot_read rfl).trans written

theorem integer {value : Int} (agree : MembersAgree form members others)
    (slot_read : form.HasSlot members name .integer)
    (written : member members name = .integer value) : member others name = .integer value :=
  (agree.member_eq slot_read rfl).trans written

theorem boolean {value : Bool} (agree : MembersAgree form members others)
    (slot_read : form.HasSlot members name .boolean)
    (written : member members name = .boolean value) : member others name = .boolean value :=
  (agree.member_eq slot_read rfl).trans written

theorem token {words : List Text} {word : Text} (agree : MembersAgree form members others)
    (slot_read : form.HasSlot members name (.token words))
    (written : member members name = .string word) : member others name = .string word :=
  (agree.member_eq slot_read rfl).trans written

theorem texts {contents : List Text} (agree : MembersAgree form members others)
    (slot_read : form.HasSlot members name .texts)
    (written : member? members name = some (.array (contents.map .string))) :
    member? others name = some (.array (contents.map .string)) := by
  obtain ⟨other, found, agrees⟩ := agree.named slot_read written
  rw [found, Agrees.eq_of_whole agrees]

theorem part {child : Form} (agree : MembersAgree form members others)
    (slot_read : form.HasSlot members name (.part .always child)) :
    Agrees (.members child) (member members name) (member others name) :=
  agree.member_agrees slot_read

end MembersAgree

section Lists

variable {α : Type} {form part : Form} {members others : List (Text × Json)} {name : String}
  {spelled : Json → α → Prop} {parts : List α}

theorem Agrees.forall₂ {items : List Json} {other : Json}
    (agrees : Agrees (.items part) (.array items) other) (all : List.Forall₂ spelled items parts)
    (item_agrees : ∀ item ∈ items, ∀ other one, Agrees (.members part) item other →
      spelled item one → spelled other one) :
    ∃ others, other = .array others ∧ List.Forall₂ spelled others parts := by
  cases agrees with
  | same => exact ⟨items, rfl, all⟩
  | @items _ _ others same_length each =>
      refine ⟨others, rfl, ?_⟩
      rw [List.forall₂_iff_get] at all ⊢
      obtain ⟨parts_length, all⟩ := all
      refine ⟨same_length.symm.trans parts_length, fun index bound parts_bound => ?_⟩
      have item_bound : index < items.length := same_length ▸ bound
      exact item_agrees items[index] (List.getElem_mem item_bound) _ _
        (each index _ _ (List.getElem?_eq_getElem item_bound) (List.getElem?_eq_getElem bound))
        (all index item_bound parts_bound)

theorem MembersAgree.lists {isRequired : Bool} (agree : MembersAgree form members others)
    (slot_read : form.HasSlot members name (.list isRequired part))
    (item_agrees : ∀ items, member? members name = some (.array items) → ∀ item ∈ items,
      ∀ other one, Agrees (.members part) item other → spelled item one → spelled other one)
    (listed : Json.Lists spelled members name parts) : Json.Lists spelled others name parts := by
  obtain ⟨there, all⟩ := listed
  obtain ⟨other, found, agrees⟩ := agree.named slot_read there
  obtain ⟨others, rfl, all_others⟩ := Agrees.forall₂ agrees all (item_agrees _ there)
  exact .all found all_others

theorem MembersAgree.listsIfNamed (agree : MembersAgree form members others)
    (slot_read : form.HasSlot members name (.list false part))
    (item_agrees : ∀ items, member? members name = some (.array items) → ∀ item ∈ items,
      ∀ other one, Agrees (.members part) item other → spelled item one → spelled other one)
    (listed : Json.ListsIfNamed spelled members name parts) :
    Json.ListsIfNamed spelled others name parts := by
  cases listed with
  | missing missing => exact .missing (agree.missing slot_read missing)
  | named listed => exact .named (agree.lists slot_read item_agrees listed)

end Lists

/-! ## Expressions and statements -/

namespace Expression

theorem hasSlot {members : List (Text × Json)} (tag : ExpressionTag) {name : String} {slot : Slot}
    (typed : member members "type" = .string tag.token) (listed : (name, slot) ∈ tag.slots) :
    Form.HasSlot .expression members name slot := by
  have found := (findTag_eq_some_iff ExpressionTag.ofToken?_eq_some_iff).mpr typed
  exact ⟨tag.slots, by rw [Form.slots, Form.expressionSlots, found], listed⟩

/-- Documents that agree spell the same expressions. -/
theorem Spelled.of_agrees {document : Json} {part : Expression} (spelled : part.Spelled document) :
    ∀ {other}, Agrees (.members .expression) document other → part.Spelled other := by
  induction spelled with
  | integer typed value =>
      intro other agrees
      obtain ⟨others, rfl, agree⟩ := agrees.membersAgree
      exact .integer ((agree.tag rfl).symm.trans typed)
        (agree.integer (hasSlot .integer typed (by decide)) value)
  | boolean typed value =>
      intro other agrees
      obtain ⟨others, rfl, agree⟩ := agrees.membersAgree
      exact .boolean ((agree.tag rfl).symm.trans typed)
        (agree.boolean (hasSlot .boolean typed (by decide)) value)
  | «variable» typed name =>
      intro other agrees
      obtain ⟨others, rfl, agree⟩ := agrees.membersAgree
      exact .variable ((agree.tag rfl).symm.trans typed)
        (agree.text (hasSlot .variable typed (by decide)) name)
  | query typed name =>
      intro other agrees
      obtain ⟨others, rfl, agree⟩ := agrees.membersAgree
      exact .query ((agree.tag rfl).symm.trans typed)
        (agree.text (hasSlot .query typed (by decide)) name)
  | unary typed operator _ operand_ih =>
      intro other agrees
      obtain ⟨others, rfl, agree⟩ := agrees.membersAgree
      exact .unary ((agree.tag rfl).symm.trans typed)
        (agree.text (hasSlot .unary typed (by decide)) operator)
        (operand_ih (agree.part (hasSlot .unary typed (by decide))))
  | binary typed operator _ _ left_ih right_ih =>
      intro other agrees
      obtain ⟨others, rfl, agree⟩ := agrees.membersAgree
      exact .binary ((agree.tag rfl).symm.trans typed)
        (agree.text (hasSlot .binary typed (by decide)) operator)
        (left_ih (agree.part (hasSlot .binary typed (by decide))))
        (right_ih (agree.part (hasSlot .binary typed (by decide))))

end Expression

theorem Expression.Spelled.is_object {document : Json} {part : Expression}
    (spelled : part.Spelled document) : ∃ members, document = .object members := by
  cases spelled <;> exact ⟨_, rfl⟩

/-- Documents that agree spell the same first part of `Informar`. -/
theorem Notice.Spelled.of_agrees {document other : Json} {part : Notice}
    (spelled : part.Spelled document) (agrees : Agrees (.members .notice) document other) :
    part.Spelled other := by
  cases spelled with
  | @text members content typed value =>
      have is_text : tagOf members = .string textTag := typed
      obtain ⟨others, rfl, agree⟩ := agrees.membersAgree
      have slot_read : Form.HasSlot .notice members "value" .text :=
        ⟨_, by rw [Form.slots, if_pos is_text], .head _⟩
      exact .text ((agree.tag rfl).symm.trans typed) (agree.text slot_read value)
  | @value _ expression spelled =>
      refine .value (spelled.of_agrees ?_)
      obtain ⟨members, rfl⟩ := spelled.is_object
      obtain ⟨others, rfl, agree⟩ := agrees.membersAgree
      have not_text : tagOf members ≠ .string textTag := by
        intro is_text
        cases (Notice.findTag_eq_none is_text).symm.trans spelled.findTag_eq
      have same : Form.slots .notice members = Form.slots .expression members := by
        rw [Form.slots, if_neg not_text, Form.slots]
      exact (agree.of_slots_eq same id).agrees

namespace Statement

theorem hasSlot {members : List (Text × Json)} (tag : StatementTag) {name : String} {slot : Slot}
    (typed : member members "type" = .string tag.token) (listed : (name, slot) ∈ tag.slots) :
    Form.HasSlot .statement members name slot := by
  have found := (findTag_eq_some_iff StatementTag.ofToken?_eq_some_iff).mpr typed
  exact ⟨tag.slots, by rw [Form.slots, Form.statementSlots, found], listed⟩

/-- Documents that agree spell the same statements. -/
theorem Spelled.of_agrees {document other : Json} {part : Statement}
    (spelled : part.Spelled document) (agrees : Agrees (.members .statement) document other) :
    part.Spelled other := by
  -- by recursion on the document: the statements of a block are spelled inside a `Forall₂`, for
  -- which the relation itself has no induction hypothesis
  cases spelled with
  | assign typed target value =>
      obtain ⟨others, rfl, agree⟩ := agrees.membersAgree
      exact .assign ((agree.tag rfl).symm.trans typed)
        (agree.text (hasSlot .assign typed (by decide)) target)
        (value.of_agrees (agree.part (hasSlot .assign typed (by decide))))
  | block typed there all =>
      obtain ⟨others, rfl, agree⟩ := agrees.membersAgree
      have listed : Json.Lists Spelled others "body" _ :=
        agree.lists (hasSlot .block typed (.head _))
          (fun items found item item_member other one item_agrees item_spelled =>
            Spelled.of_agrees item_spelled item_agrees) (.all there all)
      obtain ⟨there_too, all_too⟩ := listed
      exact .block ((agree.tag rfl).symm.trans typed) there_too all_too
  | @ifThen members _ _ typed condition body not_given =>
      obtain ⟨others, rfl, agree⟩ := agrees.membersAgree
      have slot_read : Form.HasSlot .statement members "else_body" (.part .ifGiven .statement) :=
        hasSlot .branch typed (by decide)
      exact .ifThen ((agree.tag rfl).symm.trans typed)
        (condition.of_agrees (agree.part (hasSlot .branch typed (by decide))))
        (body.of_agrees (agree.part (hasSlot .branch typed (by decide))))
        ((agree.given slot_read).symm.trans not_given)
  | @ifElse members _ _ _ typed condition body given otherwise =>
      obtain ⟨others, rfl, agree⟩ := agrees.membersAgree
      have slot_read : Form.HasSlot .statement members "else_body" (.part .ifGiven .statement) :=
        hasSlot .branch typed (by decide)
      exact .ifElse ((agree.tag rfl).symm.trans typed)
        (condition.of_agrees (agree.part (hasSlot .branch typed (by decide))))
        (body.of_agrees (agree.part (hasSlot .branch typed (by decide))))
        ((agree.given slot_read).symm.trans given)
        (otherwise.of_agrees (agree.member_agrees slot_read))
  | times typed count body =>
      obtain ⟨others, rfl, agree⟩ := agrees.membersAgree
      exact .times ((agree.tag rfl).symm.trans typed)
        (count.of_agrees (agree.part (hasSlot .times typed (by decide))))
        (body.of_agrees (agree.part (hasSlot .times typed (by decide))))
  | loop typed condition body =>
      obtain ⟨others, rfl, agree⟩ := agrees.membersAgree
      exact .loop ((agree.tag rfl).symm.trans typed)
        (condition.of_agrees (agree.part (hasSlot .loop typed (by decide))))
        (body.of_agrees (agree.part (hasSlot .loop typed (by decide))))
  | @inform members _ _ typed notice value =>
      obtain ⟨others, rfl, agree⟩ := agrees.membersAgree
      have slot_read : Form.HasSlot .statement members "arg2" (.part .ifGiven .expression) :=
        hasSlot .inform typed (by decide)
      refine .inform ((agree.tag rfl).symm.trans typed)
        (notice.of_agrees (agree.part (hasSlot .inform typed (by decide)))) ?_
      cases value with
      | nothing not_given => exact .nothing ((agree.given slot_read).symm.trans not_given)
      | given given value =>
          exact .given ((agree.given slot_read).symm.trans given)
            (value.of_agrees (agree.member_agrees slot_read))
  | moveTo typed x y =>
      obtain ⟨others, rfl, agree⟩ := agrees.membersAgree
      exact .moveTo ((agree.tag rfl).symm.trans typed)
        (x.of_agrees (agree.part (hasSlot .moveTo typed (by decide))))
        (y.of_agrees (agree.part (hasSlot .moveTo typed (by decide))))
  | exchange typed mode value recipient =>
      obtain ⟨others, rfl, agree⟩ := agrees.membersAgree
      exact .exchange ((agree.tag rfl).symm.trans typed)
        (agree.token (hasSlot .exchange typed (.head _)) mode)
        (value.of_agrees (agree.part (hasSlot .exchange typed (by decide))))
        (agree.text (hasSlot .exchange typed (by decide)) recipient)
  | corner typed mode x y =>
      obtain ⟨others, rfl, agree⟩ := agrees.membersAgree
      exact .corner ((agree.tag rfl).symm.trans typed)
        (agree.token (hasSlot .corner typed (.head _)) mode)
        (x.of_agrees (agree.part (hasSlot .corner typed (by decide))))
        (y.of_agrees (agree.part (hasSlot .corner typed (by decide))))
  | call typed procedure arguments =>
      obtain ⟨others, rfl, agree⟩ := agrees.membersAgree
      exact .call ((agree.tag rfl).symm.trans typed)
        (agree.text (hasSlot .call typed (by decide)) procedure)
        (agree.listsIfNamed (hasSlot .call typed (by decide))
          (fun _ _ _ _ _ _ item_agrees item_spelled => item_spelled.of_agrees item_agrees)
          arguments)
termination_by sizeOf document
decreasing_by
  all_goals
    subst_vars
    first
      | exact Json.sizeOf_member_lt _ _
      | exact Json.sizeOf_item_lt found item_member

end Statement

/-! ## Declarations and programs -/

section Records

variable {α : Type} {form : Form} {spelledBy : List (Text × Json) → α → Prop} {part : α}

/-- An object spells what another one spells that agrees with it, if its members do. -/
theorem Json.Spells.of_agrees
    (members_spell : ∀ members others, MembersAgree form members others →
      spelledBy members part → spelledBy others part)
    {document other : Json} (agrees : Agrees (.members form) document other)
    (spelled : document.Spells spelledBy part) : other.Spells spelledBy part := by
  obtain ⟨spelled⟩ := spelled
  obtain ⟨others, rfl, agree⟩ := agrees.membersAgree
  exact .object (members_spell _ _ agree spelled)

theorem Form.hasSlot {members : List (Text × Json)} {slots : List (String × Slot)} {name : String}
    {slot : Slot} (known : form.slots members = .ok slots) (listed : (name, slot) ∈ slots) :
    form.HasSlot members name slot :=
  ⟨slots, known, listed⟩

end Records

variable {members others : List (Text × Json)}

theorem Variable.SpelledBy.of_agree {declared : Variable}
    (agree : MembersAgree .variable members others) (spelled : declared.SpelledBy members) :
    declared.SpelledBy others where
  name := agree.text (Form.hasSlot rfl (by decide)) spelled.name
  type := agree.token (Form.hasSlot rfl (.tail _ (.head _))) spelled.type

theorem Parameter.SpelledBy.of_agree {parameter : Parameter}
    (agree : MembersAgree .parameter members others) (spelled : parameter.SpelledBy members) :
    parameter.SpelledBy others where
  passing := agree.token (Form.hasSlot rfl (.head _)) spelled.passing
  name := agree.text (Form.hasSlot rfl (by decide)) spelled.name
  type := agree.token (Form.hasSlot rfl (.tail _ (.tail _ (.head _)))) spelled.type

/-- Lists of objects that agree spell the same parts. -/
theorem MembersAgree.listsRecords {α : Type} {form part : Form}
    {spelledBy : List (Text × Json) → α → Prop} {name : String} {parts : List α}
    (agree : MembersAgree form members others)
    (slot_read : form.HasSlot members name (.list false part))
    (item_agrees : ∀ {members others one}, MembersAgree part members others →
      spelledBy members one → spelledBy others one)
    (listed : Json.ListsIfNamed (Json.Spells spelledBy) members name parts) :
    Json.ListsIfNamed (Json.Spells spelledBy) others name parts :=
  agree.listsIfNamed slot_read
    (fun _ _ _ _ _ _ agrees spelled => spelled.of_agrees (fun _ _ => item_agrees) agrees) listed

theorem MembersAgree.listsBody {form : Form} {name : String} {body : List Statement}
    (agree : MembersAgree form members others)
    (slot_read : form.HasSlot members name (.list true .statement))
    (listed : Json.Lists Statement.Spelled members name body) :
    Json.Lists Statement.Spelled others name body :=
  agree.lists slot_read (fun _ _ _ _ _ _ agrees statement => statement.of_agrees agrees) listed

theorem Procedure.SpelledBy.of_agree {procedure : Procedure}
    (agree : MembersAgree .procedure members others) (spelled : procedure.SpelledBy members) :
    procedure.SpelledBy others where
  name := agree.text (Form.hasSlot rfl (by decide)) spelled.name
  parameters := agree.listsRecords (Form.hasSlot rfl (by decide)) Parameter.SpelledBy.of_agree
    spelled.parameters
  locals := agree.listsRecords (Form.hasSlot rfl (by decide)) Variable.SpelledBy.of_agree
    spelled.locals
  body := agree.listsBody (Form.hasSlot rfl (by decide)) spelled.body

theorem RobotType.SpelledBy.of_agree {robotType : RobotType}
    (agree : MembersAgree .robotType members others) (spelled : robotType.SpelledBy members) :
    robotType.SpelledBy others where
  name := agree.text (Form.hasSlot rfl (by decide)) spelled.name
  locals := agree.listsRecords (Form.hasSlot rfl (by decide)) Variable.SpelledBy.of_agree
    spelled.locals
  body := agree.listsBody (Form.hasSlot rfl (by decide)) spelled.body

theorem Point.SpelledBy.of_agree {point : Point} (agree : MembersAgree .point members others)
    (spelled : point.SpelledBy members) : point.SpelledBy others where
  x := agree.integer (Form.hasSlot rfl (by decide)) spelled.x
  y := agree.integer (Form.hasSlot rfl (by decide)) spelled.y

theorem Area.SpelledBy.of_agree {area : Area} (agree : MembersAgree .area members others)
    (spelled : area.SpelledBy members) : area.SpelledBy others where
  name := agree.text (Form.hasSlot rfl (by decide)) spelled.name
  occupancy := agree.token (Form.hasSlot rfl (.tail _ (.head _))) spelled.occupancy
  low := spelled.low.of_agrees (fun _ _ => Point.SpelledBy.of_agree)
    (agree.part (Form.hasSlot rfl (by decide)))
  high := spelled.high.of_agrees (fun _ _ => Point.SpelledBy.of_agree)
    (agree.part (Form.hasSlot rfl (by decide)))

theorem Robot.SpelledBy.of_agree {robot : Robot} (agree : MembersAgree .robot members others)
    (spelled : robot.SpelledBy members) : robot.SpelledBy others where
  name := agree.text (Form.hasSlot rfl (by decide)) spelled.name
  type := agree.text (Form.hasSlot rfl (by decide)) spelled.type

theorem Grant.SpelledBy.of_agree {grant : Grant} (agree : MembersAgree .grant members others)
    (spelled : grant.SpelledBy members) : grant.SpelledBy others where
  robot := agree.text (Form.hasSlot rfl (by decide)) spelled.robot
  area := agree.text (Form.hasSlot rfl (by decide)) spelled.area

theorem Supply.SpelledBy.of_agree {supply : Supply} (agree : MembersAgree .supply members others)
    (spelled : supply.SpelledBy members) : supply.SpelledBy others where
  robot := agree.text (Form.hasSlot rfl (by decide)) spelled.robot
  kinds := agree.texts (Form.hasSlot rfl (by decide)) spelled.kinds
  quantity := agree.integer (Form.hasSlot rfl (by decide)) spelled.quantity

theorem Origin.SpelledBy.of_agree {origin : Origin} (agree : MembersAgree .origin members others)
    (spelled : origin.SpelledBy members) : origin.SpelledBy others where
  robot := agree.text (Form.hasSlot rfl (by decide)) spelled.robot
  x := agree.integer (Form.hasSlot rfl (by decide)) spelled.x
  y := agree.integer (Form.hasSlot rfl (by decide)) spelled.y

theorem Setup.SpelledBy.of_agree {setup : Setup} (agree : MembersAgree .setup members others)
    (spelled : setup.SpelledBy members) : setup.SpelledBy others where
  grants := agree.listsRecords (Form.hasSlot rfl (by decide)) Grant.SpelledBy.of_agree
    spelled.grants
  supplies := agree.listsRecords (Form.hasSlot rfl (by decide)) Supply.SpelledBy.of_agree
    spelled.supplies
  origins := agree.listsRecords (Form.hasSlot rfl (by decide)) Origin.SpelledBy.of_agree
    spelled.origins

theorem Setup.SpelledIn.of_agree {setup : Setup} (agree : MembersAgree .program members others)
    (spelled : Setup.SpelledIn members setup) : Setup.SpelledIn others setup := by
  have slot_read : Form.HasSlot .program members "INITS" (.part .ifNamed .setup) :=
    Form.hasSlot rfl (by decide)
  cases spelled with
  | missing missing => exact .missing (agree.missing slot_read missing)
  | named there spelled =>
      obtain ⟨other, found, agrees⟩ := agree.named slot_read there
      exact .named found (spelled.of_agrees (fun _ _ => Setup.SpelledBy.of_agree) agrees)

theorem Program.SpelledBy.of_agree {program : Program}
    (agree : MembersAgree .program members others) (same_name : nameOf members = nameOf others)
    (spelled : program.SpelledBy members) : program.SpelledBy others where
  name := namedBy_iff.mpr ((namedBy_iff.mp spelled.name).trans same_name)
  procedures := agree.listsRecords (Form.hasSlot rfl (by decide)) Procedure.SpelledBy.of_agree
    spelled.procedures
  areas := agree.listsRecords (Form.hasSlot rfl (by decide)) Area.SpelledBy.of_agree
    spelled.areas
  robotTypes := agree.listsRecords (Form.hasSlot rfl (by decide)) RobotType.SpelledBy.of_agree
    spelled.robotTypes
  robots := agree.listsRecords (Form.hasSlot rfl (by decide)) Robot.SpelledBy.of_agree
    spelled.robots
  setup := spelled.setup.of_agree agree

end RobotCity
