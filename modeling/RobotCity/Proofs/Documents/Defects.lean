import Mathlib.Data.List.Nodup
import RobotCity.Proofs.Documents.Loading
import RobotCity.Proofs.Documents.Places
import RobotCity.Proofs.Documents.ProgramReaders

/-!
# Defects of documents

The defects of a document are those of its spots, each at the place of its spot.  Every spot has a
place of its own, which can be told from the text that shows it.
-/

namespace RobotCity

open Json (member member?)

namespace Spot

variable {spot child : Spot}

theorem mem_children_iff : child ∈ spot.children ↔ ∃ members slots name slot,
    spot.value = .object members ∧ spot.form.slots members = .ok slots ∧ (name, slot) ∈ slots ∧
      child ∈ slot.spots spot.place members name := by
  obtain ⟨form, place, value⟩ := spot
  cases value with
  | object members =>
      cases known : form.slots members <;> simp [children, known]
  | _ => simp [children]

theorem sizeOf_lt_of_mem_children (below : child ∈ spot.children) :
    sizeOf child.value < sizeOf spot.value := by
  obtain ⟨members, slots, name, slot, is_object, -, -, under⟩ := mem_children_iff.mp below
  rw [is_object]
  exact Slot.sizeOf_lt_of_mem_spots under

/-- A defect of a spot is its own or stands below it. -/
theorem mem_defects_iff {error : ShapeError} : error ∈ spot.defects ↔
    error.place = spot.place ∧ error.defect ∈ spot.ownDefects ∨
      ∃ child ∈ spot.children, error ∈ child.defects := by
  obtain ⟨form, place, value⟩ := spot
  obtain ⟨defect, error_place⟩ := error
  cases value with
  | object members =>
      cases known : form.slots members with
      | error unknown =>
          simp [defects_of_unknown known, ownDefects, children, known, and_comm]
      | ok slots =>
          rw [defects_of_slots known]
          have own_iff : ∀ name slot,
              (⟨defect, error_place⟩ : ShapeError) ∈
                  ((slot : Slot).defect? members name).toList.map (⟨·, place⟩) ↔
                error_place = place ∧ slot.defect? members name = some defect := by
            simp [and_comm, eq_comm]
          simp only [ownDefects, children, known, List.mem_flatMap, Slot.defects, List.mem_append,
            own_iff, List.mem_filterMap, Prod.exists]
          constructor
          · rintro ⟨name, slot, listed, ⟨same_place, here⟩ | ⟨child, under, inside⟩⟩
            · exact .inl ⟨same_place, name, slot, listed, here⟩
            · exact .inr ⟨child, ⟨name, slot, listed, under⟩, inside⟩
          · rintro (⟨same_place, name, slot, listed, here⟩ |
              ⟨child, ⟨name, slot, listed, under⟩, inside⟩)
            · exact ⟨name, slot, listed, .inl ⟨same_place, here⟩⟩
            · exact ⟨name, slot, listed, .inr ⟨child, under, inside⟩⟩
  | _ =>
      rw [defects_of_not_object (by simp)]
      simp [ownDefects, children, and_comm]

/-- The defects of a spot are the own defects of all spots that it reaches. -/
theorem mem_defects_iff_reaches {error : ShapeError} (spot : Spot) : error ∈ spot.defects ↔
    ∃ below, spot.Reaches below ∧ error.place = below.place ∧ error.defect ∈ below.ownDefects := by
  rw [mem_defects_iff]
  constructor
  · rintro (⟨same_place, own⟩ | ⟨child, child_member, inside⟩)
    · exact ⟨spot, .refl, same_place, own⟩
    · obtain ⟨below, reaches, same_place, own⟩ := (mem_defects_iff_reaches child).mp inside
      exact ⟨below, .head child_member reaches, same_place, own⟩
  · rintro ⟨below, reaches, same_place, own⟩
    rcases reaches.cases_head with rfl | ⟨child, child_member, child_reaches⟩
    · exact .inl ⟨same_place, own⟩
    · exact .inr ⟨child, child_member,
        (mem_defects_iff_reaches child).mpr ⟨below, child_reaches, same_place, own⟩⟩
termination_by sizeOf spot.value
decreasing_by all_goals exact sizeOf_lt_of_mem_children child_member

end Spot

/-! ## Places of spots -/

/-- The place of a spot under a name of an object at another place. -/
inductive Place.Under (whole : Place) (name : String) : Place → Prop
  | field : Under whole name (.field whole name)
  | item {index : Nat} : Under whole name (.item (.field whole name) index)

theorem Place.Under.eq_of_under {whole other place : Place} {name other_name : String}
    (under : whole.Under name place) (other_under : other.Under other_name place) :
    whole = other ∧ name = other_name := by
  cases under <;> cases other_under <;> exact ⟨rfl, rfl⟩

theorem Place.Under.plain {whole place : Place} {name : String} (under : whole.Under name place)
    (field_plain : (whole.field name).Plain) : place.Plain := by
  cases under with
  | field => exact field_plain
  | item => exact .item field_plain

namespace Slot

variable {slot : Slot} {place : Place} {members : List (Text × Json)} {name : String}
  {spot other : Spot}

theorem under_of_mem_spots (member : spot ∈ slot.spots place members name) :
    place.Under name spot.place := by
  cases slot with
  | list isRequired form =>
      obtain ⟨items, index, item, -, -, rfl⟩ := mem_spots_list_iff.mp member
      exact .item
  | part presence form =>
      obtain rfl := eq_of_mem_spots_part member
      exact .field
  | _ => cases member

/-- Under one name no two spots have the same place. -/
theorem eq_of_mem_spots (member : spot ∈ slot.spots place members name)
    (other_member : other ∈ slot.spots place members name) (same_place : spot.place = other.place) :
    spot = other := by
  cases slot with
  | list isRequired form =>
      obtain ⟨items, index, item, found, there, rfl⟩ := mem_spots_list_iff.mp member
      obtain ⟨others, other_index, other_item, other_found, other_there, rfl⟩ :=
        mem_spots_list_iff.mp other_member
      cases found.symm.trans other_found
      cases same_place
      cases there.symm.trans other_there
      rfl
  | part presence form =>
      rw [eq_of_mem_spots_part member, eq_of_mem_spots_part other_member]
  | _ => cases member

end Slot

/-- The names under which something is read of an object are distinct words, none of them that of
the program document. -/
def Form.WellNamed (slots : List (String × Slot)) : Prop :=
  (slots.map (·.1)).Nodup ∧ ∀ entry ∈ slots, Place.IsWord entry.1 ∧ entry.1 ≠ "program"

instance (slots : List (String × Slot)) : Decidable (Form.WellNamed slots) :=
  inferInstanceAs (Decidable ((slots.map (·.1)).Nodup ∧
    ∀ entry ∈ slots, Place.IsWord entry.1 ∧ entry.1 ≠ "program"))

theorem ExpressionTag.slots_wellNamed (tag : ExpressionTag) : Form.WellNamed tag.slots := by
  cases tag <;> decide

theorem StatementTag.slots_wellNamed (tag : StatementTag) : Form.WellNamed tag.slots := by
  cases tag <;> decide

namespace Form

variable {form : Form} {members : List (Text × Json)} {slots : List (String × Slot)}

theorem expressionSlots_wellNamed (known : expressionSlots members = .ok slots) :
    WellNamed slots := by
  unfold expressionSlots at known
  split at known
  · cases known
    exact ExpressionTag.slots_wellNamed _
  · cases known

theorem slots_wellNamed (known : form.slots members = .ok slots) : WellNamed slots := by
  cases form with
  | statement =>
      rw [Form.slots, statementSlots] at known
      split at known
      · cases known
        exact StatementTag.slots_wellNamed _
      · cases known
  | notice =>
      rw [Form.slots] at known
      split at known
      · cases known
        decide
      · exact expressionSlots_wellNamed known
  | expression => exact expressionSlots_wellNamed known
  | _ =>
      cases known
      decide

end Form

namespace Spot

/-- A spot is where its place says: its value is found there, or it is null and the last name on
the way is missing. -/
inductive IsFound (root : Json) (spot : Spot) : Prop
  | there : spot.place.follow root = some spot.value → IsFound root spot
  | missing {whole : Place} {name : String} {members : List (Text × Json)} :
    spot.place = whole.field name → whole.follow root = some (.object members) →
    member? members name = none → spot.value = .null → IsFound root spot

variable {root spot child other : Spot}

theorem isFound_of_mem_children {document : Json} (found : spot.IsFound document)
    (below : child ∈ spot.children) : child.IsFound document := by
  obtain ⟨members, slots, name, slot, is_object, -, -, under⟩ := mem_children_iff.mp below
  have whole_found : spot.place.follow document = some (.object members) := by
    cases found with
    | there there => rw [there, is_object]
    | missing _ _ _ is_null => cases is_null.symm.trans is_object
  cases slot with
  | list isRequired form =>
      obtain ⟨items, index, item, named, there, rfl⟩ := Slot.mem_spots_list_iff.mp under
      exact .there (by simp only [Place.follow, whole_found, named, there])
  | part presence form =>
      obtain rfl := Slot.eq_of_mem_spots_part under
      cases named : member? members name with
      | none => exact .missing rfl whole_found named (by rw [member, named]; rfl)
      | some value => exact .there (by simp only [Place.follow, whole_found, member, named]; rfl)
  | _ => cases under

theorem plain_of_mem_children (plain : spot.place.Plain) (below : child ∈ spot.children) :
    child.place.Plain := by
  obtain ⟨members, slots, name, slot, -, known, listed, under⟩ := mem_children_iff.mp below
  obtain ⟨word, apart⟩ := (Form.slots_wellNamed known).2 _ listed
  exact (Slot.under_of_mem_spots under).plain (.field plain word fun _ => apart)

/-- No two spots below a spot have the same place. -/
theorem eq_of_mem_children (below : child ∈ spot.children) (other_below : other ∈ spot.children)
    (same_place : child.place = other.place) : child = other := by
  obtain ⟨members, slots, name, slot, is_object, known, listed, under⟩ := mem_children_iff.mp below
  obtain ⟨members', slots', name', slot', is_object', known', listed', under'⟩ :=
    mem_children_iff.mp other_below
  cases is_object.symm.trans is_object'
  cases known.symm.trans known'
  have same_under := Slot.under_of_mem_spots under
  rw [same_place] at same_under
  obtain ⟨-, rfl⟩ := same_under.eq_of_under (Slot.under_of_mem_spots under')
  have same_entry := List.inj_on_of_nodup_map (Form.slots_wellNamed known).1 listed listed' rfl
  cases same_entry
  exact Slot.eq_of_mem_spots under under' same_place

theorem exists_under_of_mem_children (below : child ∈ spot.children) :
    ∃ name, spot.place.Under name child.place := by
  obtain ⟨members, slots, name, slot, -, -, -, under⟩ := mem_children_iff.mp below
  exact ⟨name, Slot.under_of_mem_spots under⟩

/-- Every spot of a document has a place of its own. -/
theorem eq_of_reaches (root_place : root.place = .program) (reaches : root.Reaches spot)
    (other_reaches : root.Reaches other) (same_place : spot.place = other.place) :
    spot = other := by
  -- both ways down end with a step, and the place of its end tells the spot before it
  induction reaches generalizing other with
  | refl =>
      rcases other_reaches.cases_tail with rfl | ⟨before, -, below⟩
      · rfl
      · obtain ⟨name, under⟩ := exists_under_of_mem_children below
        rw [← same_place, root_place] at under
        cases under
  | @tail before spot before_reaches below ih =>
      obtain ⟨name, under⟩ := exists_under_of_mem_children below
      rcases other_reaches.cases_tail with rfl | ⟨other_before, other_before_reaches, other_below⟩
      · rw [same_place, root_place] at under
        cases under
      · obtain ⟨other_name, other_under⟩ := exists_under_of_mem_children other_below
        rw [same_place] at under
        obtain rfl := ih other_before_reaches (under.eq_of_under other_under).1
        exact eq_of_mem_children below other_below same_place

end Spot

/-! ## Errors -/

/-- Two objects look the same under a name, whatever objects stand there: a value that is read as it
is has to be the same, and of a list it counts only that it is one. -/
def Slot.LooksSame (slot : Slot) (members others : List (Text × Json)) (name : String) : Prop :=
  match slot with
  | .list _ _ => (member? members name).map Json.kind = (member? others name).map Json.kind
  | .part _ _ => True
  | _ => member? members name = member? others name

theorem Slot.defect?_congr {slot : Slot} {members others : List (Text × Json)} {name : String}
    (looks_same : slot.LooksSame members others name) :
    slot.defect? members name = slot.defect? others name := by
  cases slot with
  | list isRequired form =>
      simp only [LooksSame] at looks_same
      simp only [Slot.defect?]
      generalize member? members name = given at looks_same ⊢
      generalize member? others name = shown at looks_same ⊢
      rcases given with _ | value <;> rcases shown with _ | other
      · rfl
      · cases looks_same
      · cases looks_same
      · have same_kind : value.kind = other.kind := Option.some.inj looks_same
        cases value <;> cases other <;> first | rfl | cases same_kind
  | part presence form => rfl
  | _ =>
      simp only [LooksSame] at looks_same
      simp only [Slot.defect?, member, looks_same]

/-- The own defects of an object depend on its tag and on how it looks under its names. -/
theorem Spot.ownDefects_congr {form : Form} {place : Place} {members others : List (Text × Json)}
    (same_tag : form.isTagged → tagOf members = tagOf others)
    (looks_same : ∀ name slot, form.HasSlot members name slot → slot.LooksSame members others name) :
    ownDefects ⟨form, place, .object members⟩ = ownDefects ⟨form, place, .object others⟩ := by
  have same_slots := Form.slots_congr same_tag
  cases known : form.slots members with
  | error defect => simp only [ownDefects, ← same_slots, known]
  | ok slots =>
      simp only [ownDefects, ← same_slots, known]
      refine List.filterMap_congr fun (name, slot) listed => ?_
      exact Slot.defect?_congr (looks_same name slot ⟨slots, known, listed⟩)

/-- An error points at a spot of a document: it names a defect of this spot alone, and its place is
that of the spot. -/
structure ShapeError.PointsAt (document : Json) (error : ShapeError) (spot : Spot) : Prop where
  reached : (Spot.root document).Reaches spot
  same_place : error.place = spot.place
  own : error.defect ∈ spot.ownDefects
  found : spot.IsFound (unwrapped document)

namespace Spot

variable {document : Json} {spot : Spot}

theorem isFound_of_reaches (reached : (root document).Reaches spot) :
    spot.IsFound (unwrapped document) := by
  induction reached with
  | refl => exact .there rfl
  | tail _ below ih => exact isFound_of_mem_children ih below

theorem plain_of_reaches (reached : (root document).Reaches spot) : spot.place.Plain := by
  induction reached with
  | refl => exact .program
  | tail _ below ih => exact plain_of_mem_children ih below

end Spot

/-- An error is the first defect of a document in reading order.  Its place is told by its text and is that
of one spot of the document, whose own defect it is, whatever the spots below it are. -/
structure ShapeError.IsFirst (document : Json) (error : ShapeError) : Prop where
  first : (Spot.root document).defects.head? = some error
  defects_iff : ∀ other, other ∈ (Spot.root document).defects ↔
    ∃ spot, other.PointsAt document spot
  place_told : ∀ place : Place, place.Plain → place.text = error.place.text → place = error.place
  culprit : ∃ spot, error.PointsAt document spot ∧
    (∀ other, (Spot.root document).Reaches other → other.place.text = error.place.text →
      other = spot) ∧
    ∀ members others, spot.value = .object members →
      (spot.form.isTagged → tagOf members = tagOf others) →
      (∀ name slot, spot.form.HasSlot members name slot → slot.LooksSame members others name) →
      error.defect ∈ Spot.ownDefects ⟨spot.form, spot.place, .object others⟩

/-- Reading a document ends with its first defect. -/
theorem Program.isFirst_of_refused {document : Json} {error : ShapeError}
    (refused : Program.ofJson document = .error error) : error.IsFirst document := by
  have first := ((Program.ofJson_reads document).eq_error_iff error).mp refused
  have mem_iff : ∀ other, other ∈ (Spot.root document).defects ↔
      ∃ spot, other.PointsAt document spot := by
    intro other
    rw [Spot.mem_defects_iff_reaches]
    constructor
    · rintro ⟨spot, reached, same_place, own⟩
      exact ⟨spot, reached, same_place, own, Spot.isFound_of_reaches reached⟩
    · rintro ⟨spot, reached, same_place, own, -⟩
      exact ⟨spot, reached, same_place, own⟩
  obtain ⟨spot, points⟩ := (mem_iff error).mp (List.mem_of_head? first)
  have plain := Spot.plain_of_reaches points.reached
  rw [← points.same_place] at plain
  refine ⟨first, mem_iff, fun place place_plain => place_plain.eq_of_text_eq plain, spot, points,
    fun other reached same_text => ?_, fun members others is_object same_tag looks_same => ?_⟩
  · have same_place := (Spot.plain_of_reaches reached).eq_of_text_eq plain same_text
    exact Spot.eq_of_reaches rfl reached points.reached (same_place.trans points.same_place)
  · obtain ⟨form, place, value⟩ := spot
    cases is_object
    rw [← Spot.ownDefects_congr same_tag looks_same]
    exact points.own

/-- A document that is not loaded is refused over its first defect.  The error names this defect and its
place, unless the defect is a tag with an integer of too many digits, which is all that is told then. -/
theorem Program.load_reports_first_defect {document : Json} {reason : LoadError}
    (refused : Program.load document = .error reason) :
    ∃ error : ShapeError, error.IsFirst document ∧
      ((¬error.defect.ShowsLong ∧ reason = .misshapen error) ∨
        (error.defect.ShowsLong ∧ reason = .unshown .longInteger)) := by
  obtain ⟨error, unread, rfl⟩ := loadBy_eq_error_iff.mp refused
  refine ⟨error, Program.isFirst_of_refused unread, ?_⟩
  by_cases shows_long : error.defect.ShowsLong
  · exact .inr ⟨shows_long, ShapeError.raised_of_showsLong shows_long⟩
  · exact .inl ⟨shows_long, ShapeError.raised_of_shown shows_long⟩

/-- A program with a robot type whose body is one statement, and with robots. -/
def walk (robots statement : Json) : Json :=
  .object
    [ ("INSTANCES", robots)
    , ("ROBOT_TYPES", .array
        [.object [("identifier", .string "walker"), ("body", .array [statement])]]) ]

/-- The place of this statement. -/
def walkStep : Place :=
  (((Place.program.field "ROBOT_TYPES").item 0).field "body").item 0

theorem walk_refused {statement : Json} {error : ShapeError} (robots : Json)
    (refused : Statement.ofJson walkStep statement = .error error) :
    Program.ofJson (walk robots statement) = .error error := by
  let walker : Place := (Place.program.field "ROBOT_TYPES").item 0
  have body_refused : Statement.bodyOfJson (walker.field "body") 0 [statement] = .error error := by
    change Statement.ofJson ((walker.field "body").item 0) statement = .error error at refused
    rw [Statement.bodyOfJson, refused]
    rfl
  have walker_refused : RobotType.ofJson walker
      (.object [("identifier", .string "walker"), ("body", .array [statement])]) =
        .error error := by
    change (Statement.bodyOfJson (walker.field "body") 0 [statement] >>= _) = _
    rw [body_refused]
    rfl
  change (RobotType.ofJson walker _ >>= _) >>= _ = _
  rw [walker_refused]
  rfl

/-- A loop without a body. -/
def endlessLoop : List (Text × Json) :=
  [ ("type", .string "WHILE")
  , ("condition", .object [("type", .string "VARIABLE"), ("identifier", .string "on")]) ]

/-- A program with this loop in a robot type, and with another defect behind it. -/
def endlessWalk : Json :=
  walk .null (.object endlessLoop)

theorem endlessLoop_refused (place : Place) :
    Statement.ofJson place (.object endlessLoop) =
      .error ⟨.notObject .null, place.field "body"⟩ := by
  have condition_read : Expression.ofJson (place.field "condition")
      (.object [("type", .string "VARIABLE"), ("identifier", .string "on")]) =
        .ok (.variable "on") :=
    Expression.ofJson_variable (Json.holds_object _)
  have body_refused : Statement.ofJson (place.field "body") .null =
      .error ⟨.notObject .null, place.field "body"⟩ := by
    rw [Statement.ofJson]
    · rfl
    · simp
  have shows : Json.Shows endlessLoop endlessLoop := fun _ => rfl
  rw [Statement.ofJson, shows.statementTag .loop rfl,
    shows.expression "condition" rfl condition_read, shows.found "body" .null rfl, body_refused]
  rfl

/-- The missing body is reported as one that is no object, at the place where it should stand. -/
theorem endlessWalk_reported :
    ∃ error, Program.load endlessWalk = .error (.misshapen error) ∧
      error.message = .ok "Expected an object, got NoneType at ROBOT_TYPES[0].body[0].body" ∧
      ∃ spot, error.PointsAt endlessWalk spot ∧
        ∀ place : Place, place.Plain → place.text = "ROBOT_TYPES[0].body[0].body" →
          place = spot.place := by
  have refused : Program.load endlessWalk =
      .error (.misshapen ⟨.notObject .null, walkStep.field "body"⟩) :=
    Program.load_of_refused (walk_refused .null (endlessLoop_refused walkStep))
  obtain ⟨error, is_first, ⟨-, reported⟩ | ⟨-, unshown⟩⟩ :=
    Program.load_reports_first_defect refused
  · cases reported
    obtain ⟨spot, points, -⟩ := is_first.culprit
    refine ⟨_, refused, by decide, spot, points, fun place plain same_text => ?_⟩
    rw [← points.same_place]
    exact is_first.place_told place plain (same_text.trans (by decide))
  · cases unshown

/-- An assignment of an expression whose tag is a list with a number of 4301 digits. -/
def countlessAssignment : List (Text × Json) :=
  [ ("type", .string "STATEMENT_ASSIGN"), ("identifier", .string "steps")
  , ("value", .object [("type", .array [.integer Text.leastLong])]) ]

theorem countlessAssignment_refused (place : Place) :
    Statement.ofJson place (.object countlessAssignment) =
      .error ⟨.unknownExpression (.array [.integer Text.leastLong]), place.field "value"⟩ := by
  have value_refused : readExpression place countlessAssignment "value" =
      .error ⟨.unknownExpression (.array [.integer Text.leastLong]), place.field "value"⟩ := by
    change Expression.ofJson (place.field "value")
      (.object [("type", .array [.integer Text.leastLong])]) = _
    rw [Expression.ofJson]
    rfl
  have shows : Json.Shows countlessAssignment countlessAssignment := fun _ => rfl
  rw [Statement.ofJson, shows.statementTag .assign rfl]
  dsimp only
  rw [shows.text "identifier" rfl, ok_bind, value_refused]
  rfl

/-- This is no tag of an expression, but the document is refused without a word about it or a place. -/
theorem countlessWalk_unplaced :
    Program.load (walk (.array []) (.object countlessAssignment)) = .error (.unshown .longInteger) ∧
      ¬∀ document reason, Program.load document = .error reason →
        ∃ error : ShapeError, reason = .misshapen error ∧ error.IsFirst document := by
  have shows_long : ShapeDefect.ShowsLong (.unknownExpression (.array [.integer Text.leastLong])) := by
    refine .expression fun showable => Text.leastLong_not_short ?_
    exact Json.showable_integer_iff.mp (Json.showable_array_iff.mp showable _ List.mem_cons_self)
  have unplaced := Program.load_of_refused
    (walk_refused (.array []) (countlessAssignment_refused walkStep))
  rw [ShapeError.raised_of_showsLong shows_long] at unplaced
  refine ⟨unplaced, fun all_placed => ?_⟩
  obtain ⟨error, placed, -⟩ := all_placed _ _ unplaced
  cases placed

end RobotCity
