import RobotCity.Proofs.Documents.Loading
import RobotCity.Proofs.Documents.Places
import RobotCity.Proofs.Documents.ProgramReaders

/-!
# Readers and places

What comes of loading a value does not depend on the place at which it stands.  A part of a program that
is loaded alone is loaded like the same part inside a program, and what is wrong with it lies at the end of
the same way down from the one place as from the other.
-/

namespace RobotCity

open Json (member member?)

namespace Place

/-- A step down, to a member of an object or to an item of an array. -/
inductive Step where
  | field (name : String)
  | item (index : Nat)

/-- The place a step down from another one. -/
def down (place : Place) : Step → Place
  | .field name => place.field name
  | .item index => place.item index

/-- The place at the end of a way down. -/
def along (place : Place) (way : List Step) : Place :=
  way.foldl down place

/-- A step as it is shown behind the place from which it leads down. -/
def Step.text : Step → String
  | .field name => "." ++ name
  | .item index => "[" ++ Text.natText index ++ "]"

/-- A way as it is shown behind the place at which it starts. -/
def wayText : List Step → String
  | [] => ""
  | step :: rest => step.text ++ wayText rest

variable {place : Place}

theorem down_ne_program (step : Step) : place.down step ≠ .program := by
  cases step <;> nofun

theorem text_down (inner : place ≠ .program) (step : Step) :
    (place.down step).text = place.text ++ step.text := by
  cases step with
  | field name =>
      rw [down, text, Step.text, String.append_assoc]
      exact inner
  | item index =>
      rw [down, text, Step.text, String.append_assoc, String.append_assoc, String.append_assoc]

/-- A place is shown as the text of any place above it, followed by the way down. -/
theorem text_along (inner : place ≠ .program) (way : List Step) :
    (place.along way).text = place.text ++ wayText way := by
  induction way generalizing place with
  | nil => exact String.append_empty.symm
  | cons step rest ih =>
      have down_text := text_down inner step
      rw [wayText, ← String.append_assoc, ← down_text]
      exact ih (down_ne_program step)

end Place

/-- Errors lie alike from all places: their defects are the same, and each of them is at the end of the
same way down. -/
def LieAlike (errors : Place → List ShapeError) : Prop :=
  ∃ marks : List (ShapeDefect × List Place.Step), ∀ place,
    errors place = marks.map fun (defect, way) => ⟨defect, place.along way⟩

namespace LieAlike

variable {errors others : Place → List ShapeError}

theorem nil : LieAlike fun _ => [] :=
  ⟨[], fun _ => rfl⟩

theorem here (defects : List ShapeDefect) : LieAlike fun place => defects.map (⟨·, place⟩) :=
  ⟨defects.map (·, []), fun place => by rw [List.map_map]; rfl⟩

theorem append (alike : LieAlike errors) (others_alike : LieAlike others) :
    LieAlike fun place => errors place ++ others place := by
  obtain ⟨marks, errors_eq⟩ := alike
  obtain ⟨more, others_eq⟩ := others_alike
  refine ⟨marks ++ more, fun place => ?_⟩
  simp only [errors_eq, others_eq, List.map_append]

theorem down (alike : LieAlike errors) (step : Place.Step) :
    LieAlike fun place => errors (place.down step) := by
  obtain ⟨marks, errors_eq⟩ := alike
  refine ⟨marks.map fun (defect, way) => (defect, step :: way), fun place => ?_⟩
  simp only [errors_eq, List.map_map]
  rfl

theorem flatMap {α : Type} {items : List α} {errors : α → Place → List ShapeError}
    (each : ∀ item ∈ items, LieAlike (errors item)) :
    LieAlike fun place => items.flatMap fun item => errors item place := by
  induction items with
  | nil => exact nil
  | cons item rest ih =>
      obtain ⟨item_alike, rest_alike⟩ := List.forall_mem_cons.mp each
      simp only [List.flatMap_cons]
      exact item_alike.append (ih rest_alike)

end LieAlike

/-- The defects under a name lie alike, if those of all smaller values do. -/
theorem Slot.defects_lieAlike (slot : Slot) (members : List (Text × Json)) (name : String)
    (smaller_alike : ∀ form value, sizeOf value < sizeOf (Json.object members) →
      LieAlike fun place => Spot.defects ⟨form, place, value⟩) :
    LieAlike fun place => slot.defects place members name := by
  refine .append (.here (slot.defect? members name).toList) ?_
  cases slot with
  | list isRequired form =>
      simp only [Slot.spots]
      split
      · rename_i items found
        simp only [List.flatMap_map]
        refine .flatMap fun entry listed => ?_
        have item_smaller := Json.sizeOf_item_lt found (List.fst_mem_of_mem_zipIdx listed)
        exact ((smaller_alike form entry.1 item_smaller).down (.item entry.2)).down (.field name)
      · exact .nil
  | part presence form =>
      have part_alike : LieAlike fun place =>
          Spot.defects ⟨form, place.field name, member members name⟩ :=
        (smaller_alike form _ (Json.sizeOf_member_lt members _)).down (.field name)
      cases presence with
      | always => simpa [Slot.spots] using part_alike
      | ifGiven =>
          simp only [Slot.spots]
          split
          · simpa using part_alike
          · exact .nil
      | ifNamed =>
          simp only [Slot.spots]
          split
          · simpa using part_alike
          · exact .nil
  | _ => exact .nil

/-- The defects of a value and of all that is in it lie alike, wherever the value stands. -/
theorem Spot.defects_lieAlike (form : Form) (value : Json) :
    LieAlike fun place => Spot.defects ⟨form, place, value⟩ := by
  by_cases is_object : ∃ members, value = .object members
  · obtain ⟨members, same⟩ := is_object
    rw [same]
    cases known : form.slots members with
    | error defect =>
        simp only [Spot.defects_of_unknown known]
        exact .here [defect]
    | ok slots =>
        simp only [Spot.defects_of_slots known]
        refine .flatMap fun entry _ => entry.2.defects_lieAlike members entry.1 ?_
        intro form child smaller
        exact Spot.defects_lieAlike form child
  · refine ⟨[(.notObject value.kind, [])], fun place => ?_⟩
    exact Spot.defects_of_not_object fun members same => is_object ⟨members, same⟩
termination_by sizeOf value
decreasing_by exact same ▸ smaller

/-- Loading a value comes to the same at all places: to one part, or to one defect at the end of one way
down.  The text of the way is what the texts of the errors have behind the places at which reading starts;
only the program document itself is not shown in front of what is in it.  Where the defect cannot be put
into words, it is refused alike at all places, and none of them is told. -/
inductive LoadsAlike {α : Type} (read : Place → Json → Except ShapeError α) (value : Json) : Prop
  | found {part : α} : (∀ place, loadBy read place value = .ok part) → LoadsAlike read value
  | misshapen {defect : ShapeDefect} {words : String} {way : List Place.Step} :
    defect.message = .ok words →
    (∀ place : Place,
      loadBy read place value = .error (.misshapen ⟨defect, place.along way⟩)) →
    (∀ place : Place, place ≠ .program → (place.along way).text = place.text ++ Place.wayText way) →
    LoadsAlike read value
  | unshown {defect : ShapeDefect} {way : List Place.Step} : defect.ShowsLong →
    (∀ place : Place, read place value = .error ⟨defect, place.along way⟩) →
    (∀ place, loadBy read place value = .error (.unshown .longInteger)) → LoadsAlike read value

/-- What goes by the spelling of a value and by its defects is loaded alike at all places. -/
theorem ReadsForm.loadsAlike {α : Type} {form : Form} {spelled : Json → α → Prop}
    {read : Place → Json → Except ShapeError α} {value : Json}
    (reads : ReadsForm form spelled read value) : LoadsAlike read value := by
  obtain ⟨marks, defects_eq⟩ := Spot.defects_lieAlike form value
  cases marks with
  | nil =>
      obtain ⟨part, found⟩ := (reads .program).exists_ok_iff.mpr (defects_eq .program)
      have part_spelled : spelled value part := ((reads .program).eq_ok_iff part).mp found
      exact .found fun place => loadBy_eq_ok_iff.mpr (((reads place).eq_ok_iff part).mpr part_spelled)
  | cons mark others =>
      obtain ⟨defect, way⟩ := mark
      have refused : ∀ place : Place, read place value = .error ⟨defect, place.along way⟩ := by
        intro place
        rw [(reads place).eq_error_iff]
        exact congrArg List.head? (defects_eq place)
      by_cases shows_long : defect.ShowsLong
      · refine .unshown shows_long refused fun place => ?_
        rw [loadBy_of_refused (refused place), ShapeError.raised_of_showsLong shows_long]
      · obtain ⟨words, worded⟩ := ShapeDefect.exists_message shows_long
        refine .misshapen worded (fun place => ?_) fun place inner => Place.text_along inner way
        rw [loadBy_of_refused (refused place), ShapeError.raised_of_shown shows_long]

/-- Statements, expressions, procedures, robot types and areas are loaded alike at all places. -/
theorem parts_load_alike (value : Json) :
    LoadsAlike Statement.ofJson value ∧ LoadsAlike Expression.ofJson value ∧
      LoadsAlike Procedure.ofJson value ∧ LoadsAlike RobotType.ofJson value ∧
      LoadsAlike Area.ofJson value :=
  ⟨(Statement.ofJson_reads value).loadsAlike, (Expression.ofJson_reads value).loadsAlike,
    (Procedure.ofJson_reads value).loadsAlike, (RobotType.ofJson_reads value).loadsAlike,
    (Area.ofJson_reads value).loadsAlike⟩

/-- An expression whose tag is a number of 4301 digits is refused, but at no place for its shape. -/
theorem countless_expression_unshown :
    (∀ place, loadBy Expression.ofJson place (.object [("type", .integer Text.leastLong)]) =
      .error (.unshown .longInteger)) ∧
      ¬∀ value, (∃ expression, ∀ place, loadBy Expression.ofJson place value = .ok expression) ∨
        ∃ defect way, ∀ place : Place, loadBy Expression.ofJson place value =
          .error (.misshapen ⟨defect, place.along way⟩) := by
  have unshown (place : Place) :
      loadBy Expression.ofJson place (.object [("type", .integer Text.leastLong)]) =
        .error (.unshown .longInteger) := by
    have refused : Expression.ofJson place (.object [("type", .integer Text.leastLong)]) =
        .error ⟨.unknownExpression (.integer Text.leastLong), place⟩ := by
      rw [Expression.ofJson]
      rfl
    have shows_long : ShapeDefect.ShowsLong (.unknownExpression (.integer Text.leastLong)) :=
      .expression (mt Json.showable_integer_iff.mp Text.leastLong_not_short)
    rw [loadBy_of_refused refused, ShapeError.raised_of_showsLong shows_long]
  refine ⟨unshown, fun all_placed => ?_⟩
  obtain ⟨expression, found⟩ | ⟨defect, way, misshapen⟩ := all_placed _
  · cases (unshown .program).symm.trans (found .program)
  · cases (unshown .program).symm.trans (misshapen .program)

end RobotCity
