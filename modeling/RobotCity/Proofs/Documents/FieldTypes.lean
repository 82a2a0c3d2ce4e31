import RobotCity.Proofs.Documents.Defects

/-!
# Types of fields

In a document that is read every field has the type that the table of forms gives it, at every depth.
Two kinds of fields are passed over unless their value counts as given, whatever its type: the branch of
a `sino` and the second argument of `Informar`.  The label of a program has no type at all.
-/

namespace RobotCity

open Json (member member?)

/-- What stands under a name of an object has the type of what is read there. -/
def Slot.Typed (slot : Slot) (members : List (Text × Json)) (name : String) : Prop :=
  match slot with
  | .text => ∃ content, member members name = .string content
  | .integer => ∃ value, member members name = .integer value
  | .boolean => ∃ value, member members name = .boolean value
  | .token words => ∃ word ∈ words, member members name = .string word
  | .texts => ∃ texts : List Text, member? members name = some (.array (texts.map .string))
  | .list isRequired _ =>
    isRequired = false ∧ member? members name = none ∨
      ∃ items, member? members name = some (.array items)
  | .part .always _ => ∃ inner, member members name = .object inner
  | .part .ifGiven _ =>
    (member members name).isGiven = false ∨ ∃ inner, member members name = .object inner
  | .part .ifNamed _ =>
    member? members name = none ∨ ∃ inner, member? members name = some (.object inner)

/-- A spot is an object with a tag that is known, if its tag counts, and with typed fields. -/
inductive Spot.Typed (spot : Spot) : Prop
  | object {members : List (Text × Json)} {slots : List (String × Slot)} :
    spot.value = .object members →
    (spot.form.isTagged → ∃ word, tagOf members = .string word) →
    spot.form.slots members = .ok slots → (∀ entry ∈ slots, entry.2.Typed members entry.1) →
    Typed spot

namespace Slot

variable {slot : Slot} {members : List (Text × Json)} {name : String}

theorem Typed.defect?_eq_none (typed : slot.Typed members name) :
    slot.defect? members name = none := by
  cases slot with
  | text | integer | boolean =>
      obtain ⟨value, there⟩ := typed
      simp [defect?, there]
  | token words =>
      obtain ⟨word, known, there⟩ := typed
      simp [defect?, there, known]
  | texts =>
      obtain ⟨texts, there⟩ := typed
      have read : texts? (texts.map .string) = some texts := texts?_eq_some_iff.mpr rfl
      simp [defect?, there, read]
  | list isRequired form =>
      rcases typed with ⟨free, missing⟩ | ⟨items, there⟩
      · simp [defect?, missing, free]
      · simp [defect?, there]
  | part => rfl

/-- A field has its type if nothing is wrong with it and the spots below it are objects. -/
theorem typed_of_defect?_eq_none (place : Place) (faultless : slot.defect? members name = none)
    (objects : ∀ child ∈ slot.spots place members name, ∃ inner, child.value = .object inner) :
    slot.Typed members name := by
  cases slot with
  | text | integer | boolean =>
      simp only [defect?] at faultless
      split at faultless
      · exact ⟨_, ‹_›⟩
      · cases faultless
  | token words =>
      simp only [defect?] at faultless
      split at faultless
      · split at faultless
        · exact ⟨_, ‹_›, ‹_›⟩
        · cases faultless
      · cases faultless
  | texts =>
      simp only [defect?] at faultless
      split at faultless
      · cases faultless
      · split at faultless
        · rename_i items there are_texts
          obtain ⟨texts, read⟩ := Option.isSome_iff_exists.mp are_texts
          obtain rfl := texts?_eq_some_iff.mp read
          exact ⟨texts, there⟩
        · cases faultless
      · cases faultless
  | list isRequired form =>
      simp only [defect?] at faultless
      split at faultless
      · rename_i missing
        cases isRequired with
        | false => exact .inl ⟨rfl, missing⟩
        | true => cases faultless
      · exact .inr ⟨_, ‹_›⟩
      · cases faultless
  | part presence form =>
      cases presence with
      | always => exact objects _ (List.mem_singleton_self _)
      | ifGiven =>
          cases given : (member members name).isGiven with
          | false => exact .inl given
          | true => exact .inr (objects ⟨form, place.field name, member members name⟩
              (by simp [spots, given]))
      | ifNamed =>
          cases named : member? members name with
          | none => exact .inl named
          | some value =>
              obtain ⟨inner, is_object⟩ := objects ⟨form, place.field name, member members name⟩
                (by simp [spots, named])
              have same : value = .object inner := by simpa [member, named] using is_object
              exact .inr ⟨inner, by rw [named, same]⟩

end Slot

theorem findTag_eq_none_of_not_text {α : Type} {ofToken? : Text → Option α}
    {members : List (Text × Json)} (untagged : ∀ word, tagOf members ≠ .string word) :
    findTag ofToken? members = none := by
  rw [findTag]
  split
  · rename_i word tagged
    exact absurd tagged (untagged word)
  · rfl

/-- Where the tag counts, it has to be a text. -/
theorem Form.exists_tag {form : Form} {members : List (Text × Json)}
    {slots : List (String × Slot)} (known : form.slots members = .ok slots)
    (counts : form.isTagged) : ∃ word, tagOf members = .string word := by
  by_contra untagged
  have not_text : ∀ word, tagOf members ≠ .string word := not_exists.mp untagged
  cases form with
  | statement => simp [Form.slots, statementSlots, findTag_eq_none_of_not_text not_text] at known
  | notice =>
      simp [Form.slots, not_text, expressionSlots, findTag_eq_none_of_not_text not_text] at known
  | expression => simp [Form.slots, expressionSlots, findTag_eq_none_of_not_text not_text] at known
  | _ => cases counts

namespace Spot

variable {spot : Spot}

theorem ownDefects_eq_nil_iff : spot.ownDefects = [] ↔ ∃ members slots,
    spot.value = .object members ∧ spot.form.slots members = .ok slots ∧
      ∀ entry ∈ slots, entry.2.defect? members entry.1 = none := by
  obtain ⟨form, place, value⟩ := spot
  cases value with
  | object members =>
      cases known : form.slots members with
      | error defect => simp [ownDefects, known]
      | ok slots => simp [ownDefects, known, List.filterMap_eq_nil_iff]
  | _ => simp [ownDefects]

theorem Typed.ownDefects_eq_nil (typed : spot.Typed) : spot.ownDefects = [] := by
  obtain ⟨is_object, -, known, fields_typed⟩ := typed
  exact ownDefects_eq_nil_iff.mpr ⟨_, _, is_object, known,
    fun entry listed => (fields_typed entry listed).defect?_eq_none⟩

/-- A spot without defects of its own is typed if the spots right below it have none either. -/
theorem typed_of_ownDefects_eq_nil (faultless : spot.ownDefects = [])
    (below : ∀ child ∈ spot.children, child.ownDefects = []) : spot.Typed := by
  obtain ⟨members, slots, is_object, known, fields⟩ := ownDefects_eq_nil_iff.mp faultless
  refine .object is_object (Form.exists_tag known) known fun entry listed => ?_
  refine Slot.typed_of_defect?_eq_none spot.place (fields entry listed) ?_
  intro child under
  have is_child : child ∈ spot.children :=
    mem_children_iff.mpr ⟨members, slots, entry.1, entry.2, is_object, known, listed, under⟩
  obtain ⟨inner, -, child_object, -, -⟩ := ownDefects_eq_nil_iff.mp (below child is_child)
  exact ⟨inner, child_object⟩

/-- A spot has no defects at any depth exactly if all spots that it reaches are typed. -/
theorem defects_eq_nil_iff_typed :
    spot.defects = [] ↔ ∀ below, spot.Reaches below → below.Typed := by
  have faultless_iff : spot.defects = [] ↔
      ∀ below, spot.Reaches below → below.ownDefects = [] := by
    simp only [List.eq_nil_iff_forall_not_mem, mem_defects_iff_reaches]
    constructor
    · intro none_inside below reaches defect own
      exact none_inside ⟨defect, below.place⟩ ⟨below, reaches, rfl, own⟩
    · rintro faultless error ⟨below, reaches, -, own⟩
      exact faultless below reaches error.defect own
  rw [faultless_iff]
  constructor
  · intro faultless below reaches
    exact typed_of_ownDefects_eq_nil (faultless below reaches)
      fun child is_child => faultless child (reaches.tail is_child)
  · intro typed below reaches
    exact (typed below reaches).ownDefects_eq_nil

end Spot

namespace Program

/-- A program is called by a text exactly if a given `identifier` of its label is one. -/
theorem NamedBy.text_iff {members : List (Text × Json)} {name : Json}
    (named : NamedBy members name) :
    (∃ content, name = .string content) ↔
      ∀ label given, member? members "NAME" = some (.object label) →
        member? label "identifier" = some given → given.isGiven →
          ∃ content, given = .string content := by
  constructor
  · rintro ⟨content, rfl⟩ label given labelled identified is_given
    refine ⟨content, ?_⟩
    rw [← nameOf_of_named labelled identified is_given]
    exact (namedBy_iff.mp named).symm
  · intro texts
    cases named with
    | label labelled identified is_given => exact texts _ _ labelled identified is_given
    | nothing => exact ⟨_, rfl⟩

/-- The documents that are read are those in which every field that is read has its type, at every
depth: the branch of a `sino` and the second argument of `Informar` are not read unless they count as
given.  The name of a program is passed on whatever its type. -/
theorem read_iff_fields_typed (document : Json) :
    ((∃ program, ofJson document = .ok program) ↔
      ∀ spot, (Spot.root document).Reaches spot → spot.Typed) ∧
    ∀ program, ofJson document = .ok program → ∃ members, unwrapped document = .object members ∧
      NamedBy members program.name ∧
      ((∃ content, program.name = .string content) ↔
        ∀ label name, member? members "NAME" = some (.object label) →
          member? label "identifier" = some name → name.isGiven →
            ∃ content, name = .string content) := by
  refine ⟨?_, fun program read => ?_⟩
  · rw [← Spot.defects_eq_nil_iff_typed, (ofJson_reads document).exists_ok_iff]
  · obtain ⟨inner, unwraps, spelled⟩ := ((ofJson_reads document).eq_ok_iff program).mp read
    obtain ⟨spelled⟩ := spelled
    exact ⟨_, (Json.unwraps_iff.mp unwraps).symm, spelled.name, spelled.name.text_iff⟩

end Program

/-- A choice with the number zero in the place of its branch of `sino`. -/
def zeroBranch : List (Text × Json) :=
  [ ("type", .string "IF")
  , ("condition", .object [("type", .string "LITERAL_BOOLEAN"), ("value", .boolean true)])
  , ("body", .object [("type", .string "STATEMENT_BLOCK"), ("body", .array [])])
  , ("else_body", .integer 0) ]

/-- A robot type with this choice. -/
def zeroSentry : List (Text × Json) :=
  [("identifier", .string "sentry"), ("body", .array [.object zeroBranch])]

/-- A program with this robot type, called by a number. -/
def numbered : List (Text × Json) :=
  [ ("NAME", .object [("type", .string "NAME"), ("identifier", .integer 5)])
  , ("ROBOT_TYPES", .array [.object zeroSentry]) ]

namespace Program

/-- The document is read as a program whose name is the number. -/
theorem numbered_spelled :
    Program.Spelled (.object numbered)
      { name := .integer 5
        procedures := []
        areas := []
        robotTypes :=
          [ { name := "sentry"
              locals := []
              body := [.ifThen (.boolean true) (.block [])] } ]
        robots := []
        setup := ⟨[], [], []⟩ } := by
  have branch : Statement.Spelled (.object zeroBranch) (.ifThen (.boolean true) (.block [])) :=
    .ifThen rfl (.boolean rfl rfl) (.block rfl rfl .nil) rfl
  have sentry : RobotType.SpelledBy zeroSentry
      { name := "sentry", locals := [], body := [.ifThen (.boolean true) (.block [])] } :=
    ⟨rfl, .missing rfl, .all rfl (.cons branch .nil)⟩
  refine ⟨_, Json.unwraps_iff.mpr rfl, .object ?_⟩
  exact ⟨namedBy_iff.mpr rfl, .missing rfl, .missing rfl,
    .named (.all rfl (.cons (.object sentry) .nil)), .missing rfl, .missing rfl⟩

theorem numbered_read : ∃ program, ofJson (.object numbered) = .ok program ∧
    program.name = .integer 5 :=
  ⟨_, ((ofJson_reads _).eq_ok_iff _).mpr numbered_spelled, rfl⟩

/-- The number zero that is passed over. -/
theorem zeroBranch_reached : (Spot.root (.object numbered)).Reaches
    { form := .statement
      place := (((Place.program.field "ROBOT_TYPES").item 0).field "body").item 0
      value := .object zeroBranch } := by
  let sentry : Spot :=
    { form := .robotType
      place := (Place.program.field "ROBOT_TYPES").item 0
      value := .object zeroSentry }
  have sentry_below : sentry ∈ (Spot.root (.object numbered)).children :=
    Spot.mem_children_iff.mpr ⟨numbered, _, "ROBOT_TYPES", .list false .robotType, rfl, rfl,
      by simp, Slot.mem_spots_list_iff.mpr ⟨_, 0, _, rfl, rfl, rfl⟩⟩
  refine .tail (.single sentry_below) ?_
  exact Spot.mem_children_iff.mpr ⟨zeroSentry, _, "body", .list true .statement, rfl, rfl,
    by simp, Slot.mem_spots_list_iff.mpr ⟨_, 0, _, rfl, rfl, rfl⟩⟩

/-- The document is typed as far as it is read. -/
theorem numbered_typed :
    (∀ spot, (Spot.root (.object numbered)).Reaches spot → spot.Typed) ∧
      ∃ program, ofJson (.object numbered) = .ok program ∧
        ¬∃ content, program.name = .string content := by
  obtain ⟨program, read, named⟩ := numbered_read
  refine ⟨(read_iff_fields_typed (.object numbered)).1.mp ⟨program, read⟩, program, read, ?_⟩
  simp [named]

/-- Not every field of a document that is read has its type: a label may hold a number, and a number may
stand for the branch of a `sino`. -/
theorem mistyped_fields_are_read :
    ¬(∀ document program, ofJson document = .ok program →
      ∃ content, program.name = .string content) ∧
    ¬∀ document program, ofJson document = .ok program →
      ∀ spot, (Spot.root document).Reaches spot → ∀ members name form value,
        spot.value = .object members → spot.form.HasSlot members name (.part .ifGiven form) →
        member? members name = some value → ∃ inner, value = .object inner := by
  obtain ⟨program, read, named⟩ := numbered_read
  refine ⟨fun all_texts => ?_, fun all_objects => ?_⟩
  · obtain ⟨content, is_text⟩ := all_texts _ program read
    cases named.symm.trans is_text
  · obtain ⟨inner, is_object⟩ := all_objects _ program read _ zeroBranch_reached zeroBranch
      "else_body" .statement (.integer 0) rfl ⟨_, rfl, by simp [StatementTag.slots]⟩ rfl
    cases is_object

end Program
end RobotCity
