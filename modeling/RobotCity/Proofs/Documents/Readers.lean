import RobotCity.Proofs.Documents.Forms
import RobotCity.Proofs.Documents.Members
import RobotCity.Proofs.Documents.Spelling

/-!
# Readers

A reader goes by the spelling of what it reads and by the defects of the document: it gives the one
part that is spelled if there are no defects, and the first defect otherwise.  Each reader is made of
readers of members, one after the other, and so are its spelling and its defects.
-/

namespace RobotCity

open Json (member member?)

variable {α β : Type}

/-- What comes of reading is the one part that is spelled, or the first of some defects. -/
inductive Reads (spelled : α → Prop) : List ShapeError → Except ShapeError α → Prop
  | found {part : α} : (∀ other, spelled other ↔ other = part) → Reads spelled [] (.ok part)
  | refused {error : ShapeError} {others : List ShapeError} :
    (∀ other, ¬spelled other) → Reads spelled (error :: others) (.error error)

namespace Reads

variable {spelled : α → Prop} {defects : List ShapeError} {outcome : Except ShapeError α}

theorem eq_ok_iff (reads : Reads spelled defects outcome) (part : α) :
    outcome = .ok part ↔ spelled part := by
  cases reads with
  | found only => rw [only, Except.ok.injEq, eq_comm]
  | refused none_spelled => simpa using none_spelled part

theorem eq_error_iff (reads : Reads spelled defects outcome) (error : ShapeError) :
    outcome = .error error ↔ defects.head? = some error := by
  cases reads with
  | found _ => simp
  | refused _ => simp [eq_comm]

theorem exists_ok_iff (reads : Reads spelled defects outcome) :
    (∃ part, outcome = .ok part) ↔ defects = [] := by
  cases reads <;> simp

theorem congr {spelled' : α → Prop} {defects' : List ShapeError}
    (reads : Reads spelled defects outcome) (same_spelled : ∀ part, spelled' part ↔ spelled part)
    (same_defects : defects' = defects) : Reads spelled' defects' outcome := by
  obtain rfl : spelled' = spelled := funext fun part => propext (same_spelled part)
  rwa [same_defects]

theorem pure (part : α) : Reads (· = part) [] (pure part : Except ShapeError α) :=
  .found fun _ => Iff.rfl

/-- What is read next may look at what has been read. -/
theorem bind {after : α → β → Prop} {others : List ShapeError} {next : α → Except ShapeError β}
    (reads : Reads spelled defects outcome)
    (reads_next : ∀ part, spelled part → Reads (after part) others (next part)) :
    Reads (fun whole => ∃ part, spelled part ∧ after part whole) (defects ++ others)
      (outcome >>= next) := by
  cases reads with
  | @found part only =>
      refine (reads_next part ((only part).mpr rfl)).congr (fun whole => ?_) rfl
      simp [only]
  | refused none_spelled =>
      refine .refused ?_
      rintro whole ⟨part, part_spelled, -⟩
      exact none_spelled part part_spelled

/-- What is read in two steps, before more is read. -/
theorem bind_bind {γ : Type} {first : Except ShapeError γ} {second : γ → Except ShapeError α}
    {after : α → β → Prop} {others : List ShapeError} {next : α → Except ShapeError β}
    (reads : Reads spelled defects (first >>= second))
    (reads_next : ∀ part, spelled part → Reads (after part) others (next part)) :
    Reads (fun whole => ∃ part, spelled part ∧ after part whole) (defects ++ others)
      (first >>= fun items => second items >>= next) := by
  rw [← bind_assoc]
  exact reads.bind reads_next

end Reads

section Members

variable (place : Place) (members : List (Text × Json)) (name : String)

theorem readText_reads :
    Reads (fun content => member members name = .string content)
      (Slot.text.defects place members name) (readText place members name) := by
  unfold readText Slot.defects Slot.defect?
  cases member members name with
  | string content => exact .found fun other => by simp [eq_comm]
  | _ => exact .refused fun other => by simp

theorem readInteger_reads :
    Reads (fun value => member members name = .integer value)
      (Slot.integer.defects place members name) (readInteger place members name) := by
  unfold readInteger Slot.defects Slot.defect?
  cases member members name with
  | integer value => exact .found fun other => by simp [eq_comm]
  | _ => exact .refused fun other => by simp

theorem readBoolean_reads :
    Reads (fun value => member members name = .boolean value)
      (Slot.boolean.defects place members name) (readBoolean place members name) := by
  unfold readBoolean Slot.defects Slot.defect?
  cases member members name with
  | boolean value => exact .found fun other => by simp [eq_comm]
  | _ => exact .refused fun other => by simp

/-- The token of a member is read as what it stands for. -/
theorem readToken_reads {tokens : List (Text × α)} {token : α → Text}
    (known : ∀ word value, tokens.lookup word = some value ↔ word = token value) :
    Reads (fun value => member members name = .string (token value))
      ((Slot.token (tokens.map (·.1))).defects place members name)
      (readToken tokens place members name) := by
  unfold readToken readText Slot.defects Slot.defect?
  cases member members name with
  | string word =>
      simp only [ok_bind, Json.string.injEq, ← known]
      cases found : tokens.lookup word with
      | some value =>
          have word_known : word ∈ tokens.map (·.1) := by
            by_contra unknown
            simp [NameTable.lookup_eq_none_iff_notMem.mpr unknown] at found
          rw [if_pos word_known]
          exact .found fun other => by simp [eq_comm]
      | none =>
          rw [if_neg (NameTable.lookup_eq_none_iff_notMem.mp found)]
          exact .refused fun other => by simp
  | _ => exact .refused fun other => by simp

theorem texts?_eq_some_iff {items : List Json} {texts : List Text} :
    texts? items = some texts ↔ items = texts.map .string := by
  constructor
  · intro read
    induction items generalizing texts with
    | nil =>
        cases read
        rfl
    | cons item rest ih =>
        cases item with
        | string text =>
            obtain ⟨others, rest_read, rfl⟩ := Option.map_eq_some_iff.mp read
            rw [ih rest_read, List.map_cons]
        | _ => cases read
  · rintro rfl
    exact Json.texts?_map_string texts

theorem readTexts_reads :
    Reads (fun texts => member? members name = some (.array (texts.map .string)))
      (Slot.texts.defects place members name) (readTexts place members name) := by
  unfold readTexts readList Slot.defects Slot.defect?
  cases member? members name with
  | none => exact .refused fun other => by simp
  | some value =>
      cases value with
      | array items =>
          simp only [ok_bind, Option.some.injEq, Json.array.injEq, ← texts?_eq_some_iff]
          cases texts? items with
          | some texts => exact .found fun other => by simp [eq_comm]
          | none => exact .refused fun other => by simp
      | _ => exact .refused fun other => by simp

end Members

/-- Reading objects of a form goes by their spelling and by the defects of their spots. -/
def ReadsForm (form : Form) (spelled : Json → α → Prop)
    (read : Place → Json → Except ShapeError α) (value : Json) : Prop :=
  ∀ place, Reads (spelled value) (Spot.defects ⟨form, place, value⟩) (read place value)

theorem readEach_reads {form : Form} {spelled : Json → α → Prop}
    {read : Place → Json → Except ShapeError α} (place : Place) {items : List Json} (start : Nat)
    (reads : ∀ item ∈ items, ReadsForm form spelled read item) :
    Reads (List.Forall₂ spelled items)
      ((items.zipIdx start).flatMap fun (item, index) =>
        Spot.defects ⟨form, place.item index, item⟩)
      (readEach read place start items) := by
  induction items generalizing start with
  | nil => exact .found fun other => by simp
  | cons item rest ih =>
      obtain ⟨item_reads, rest_reads⟩ := List.forall_mem_cons.mp reads
      have steps := (item_reads (place.item start)).bind fun first _ =>
        (ih (start + 1) rest_reads).bind fun others _ => Reads.pure (first :: others)
      refine steps.congr (fun parts => ?_) (by simp)
      cases parts <;> simp [List.forall₂_cons]

section Lists

variable {form : Form} {spelled : Json → α → Prop} {read : Place → Json → Except ShapeError α}
  {members : List (Text × Json)} {name : String}

theorem readList_reads (place : Place)
    (reads : ∀ items, member? members name = some (.array items) →
      ∀ item ∈ items, ReadsForm form spelled read item) :
    Reads (Json.Lists spelled members name) ((Slot.list true form).defects place members name)
      (readList place members name >>= readEach read (place.field name) 0) := by
  unfold readList Slot.defects Slot.defect? Slot.spots
  cases found : member? members name with
  | none =>
      refine .refused ?_
      rintro parts ⟨there, -⟩
      cases found.symm.trans there
  | some value =>
      cases value with
      | array items =>
          rw [ok_bind]
          refine (readEach_reads (place.field name) 0 (reads items found)).congr
            (fun parts => ⟨?_, .all found⟩) (by simp [List.flatMap_map])
          rintro ⟨there, each⟩
          cases found.symm.trans there
          exact each
      | _ =>
          refine .refused ?_
          rintro parts ⟨there, -⟩
          cases found.symm.trans there

theorem readOptionalList_reads (place : Place)
    (reads : ∀ items, member? members name = some (.array items) →
      ∀ item ∈ items, ReadsForm form spelled read item) :
    Reads (Json.ListsIfNamed spelled members name)
      ((Slot.list false form).defects place members name)
      (readOptionalList place members name >>= readEach read (place.field name) 0) := by
  cases found : member? members name with
  | none =>
      unfold readOptionalList Slot.defects Slot.defect? Slot.spots
      rw [found]
      refine .found fun parts => ⟨?_, ?_⟩
      · rintro (_ | ⟨there, -⟩)
        · rfl
        · cases found.symm.trans there
      · rintro rfl
        exact .missing found
  | some value =>
      -- A list that is there is read as one that has to be there.
      have there := readList_reads place reads
      have same_outcome : readOptionalList place members name = readList place members name := by
        unfold readOptionalList readList
        rw [found]
        cases value <;> rfl
      have same_defects : (Slot.list false form).defects place members name =
          (Slot.list true form).defects place members name := by
        unfold Slot.defects Slot.defect? Slot.spots
        rw [found]
        cases value <;> rfl
      rw [same_outcome]
      refine there.congr (fun parts => ⟨?_, .named⟩) same_defects
      rintro (missing | all)
      · cases found.symm.trans missing
      · exact all

variable {place : Place}

@[simp]
theorem Slot.defects_part_always : (Slot.part .always form).defects place members name =
    Spot.defects ⟨form, place.field name, member members name⟩ := by
  simp [Slot.defects, Slot.defect?, Slot.spots]

theorem Slot.defects_part_ifGiven : (Slot.part .ifGiven form).defects place members name =
    if (member members name).isGiven then
      Spot.defects ⟨form, place.field name, member members name⟩ else [] := by
  simp only [Slot.defects, Slot.defect?, Slot.spots]
  split <;> simp

theorem Slot.defects_part_ifNamed : (Slot.part .ifNamed form).defects place members name =
    if (member? members name).isSome then
      Spot.defects ⟨form, place.field name, member members name⟩ else [] := by
  simp only [Slot.defects, Slot.defect?, Slot.spots]
  split <;> simp

end Lists

end RobotCity
