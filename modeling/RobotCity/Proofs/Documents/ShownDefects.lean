import RobotCity.Program.Written
import RobotCity.Proofs.Documents.Defects
import RobotCity.Proofs.Json.Soundness

/-!
# Defects that can be put into words

If a document can be shown, then so can all that is read of it, and with it the first defect of the
document.  Every document that comes from a text can be shown.
-/

namespace RobotCity

theorem unwrapped_showable {document : Json} (showable : document.Showable) :
    (unwrapped document).Showable := by
  cases document with
  | object members =>
      rw [unwrapped]
      split
      · cases valued : Json.member? members "value" with
        | some value => exact showable.of_member? valued
        | none => exact showable
      · exact showable
  | _ => exact showable

/-- An unknown tag can be shown if the object can. -/
theorem Form.shown_of_unknown {form : Form} {members : List (Text × Json)} {defect : ShapeDefect}
    (showable : (Json.object members).Showable) (unknown : form.slots members = .error defect) :
    ¬defect.ShowsLong := by
  have tag_showable : (tagOf members).Showable := showable.of_member _
  have expression_shown (unknown : expressionSlots members = .error defect) : ¬defect.ShowsLong := by
    unfold expressionSlots at unknown
    split at unknown
    · cases unknown
    · cases unknown
      rintro (_ | long)
      exact long tag_showable
  cases form with
  | statement =>
      rw [slots, statementSlots] at unknown
      split at unknown
      · cases unknown
      · cases unknown
        rintro (long | _)
        exact long tag_showable
  | notice =>
      rw [slots] at unknown
      split at unknown
      · cases unknown
      · exact expression_shown unknown
  | expression => exact expression_shown unknown
  | _ => cases unknown

theorem Slot.shown_of_defect? {slot : Slot} {members : List (Text × Json)} {name : String}
    {defect : ShapeDefect} (found : slot.defect? members name = some defect) :
    ¬defect.ShowsLong := by
  unfold Slot.defect? at found
  cases slot with
  | token words =>
      dsimp only at found
      split at found
      · split at found <;> cases found
        rintro ⟨⟩
      · cases found
        rintro ⟨⟩
  | texts =>
      dsimp only at found
      split at found
      · cases found
        rintro ⟨⟩
      · split at found <;> cases found
        rintro ⟨⟩
      · cases found
        rintro ⟨⟩
  | list isRequired form =>
      dsimp only at found
      split at found
      · split at found <;> cases found
        rintro ⟨⟩
      · cases found
      · cases found
        rintro ⟨⟩
  | part presence form => cases found
  | _ =>
      dsimp only at found
      split at found <;> cases found
      rintro ⟨⟩

namespace Spot

variable {spot child : Spot}

theorem showable_of_mem_children (showable : spot.value.Showable) (below : child ∈ spot.children) :
    child.value.Showable := by
  obtain ⟨members, slots, name, slot, is_object, -, -, under⟩ := mem_children_iff.mp below
  rw [is_object] at showable
  cases slot with
  | list isRequired form =>
      obtain ⟨items, index, item, named, there, rfl⟩ := Slot.mem_spots_list_iff.mp under
      exact Json.showable_array_iff.mp (showable.of_member? named) item (List.mem_of_getElem? there)
  | part presence form =>
      obtain rfl := Slot.eq_of_mem_spots_part under
      exact showable.of_member _
  | _ => cases under

theorem showable_of_reaches (showable : spot.value.Showable) (reaches : spot.Reaches child) :
    child.value.Showable := by
  induction reaches with
  | refl => exact showable
  | tail _ below ih => exact showable_of_mem_children ih below

theorem shown_of_ownDefects {defect : ShapeDefect} (showable : spot.value.Showable)
    (own : defect ∈ spot.ownDefects) : ¬defect.ShowsLong := by
  rw [ownDefects] at own
  split at own
  · rename_i members is_object
    split at own
    · rename_i unknown
      cases List.mem_singleton.mp own
      exact Form.shown_of_unknown (is_object ▸ showable) unknown
    · obtain ⟨⟨name, slot⟩, -, found⟩ := List.mem_filterMap.mp own
      exact Slot.shown_of_defect? found
  · cases List.mem_singleton.mp own
    rintro ⟨⟩

end Spot

/-- A document that can be shown is refused for its shape if it is not read. -/
theorem Program.load_eq_of_showable {document : Json} (showable : document.Showable) :
    load document = (ofJson document).mapError .misshapen := by
  cases read : ofJson document with
  | ok program => exact load_eq_ok_iff.mpr read
  | error error =>
      obtain ⟨spot, points, -⟩ := (isFirst_of_refused read).culprit
      have spot_showable := Spot.showable_of_reaches (unwrapped_showable showable) points.reached
      rw [load_of_refused read,
        ShapeError.raised_of_shown (Spot.shown_of_ownDefects spot_showable points.own)]
      rfl

/-- A text that is JSON gives the program of its document, or is refused for its shape. -/
theorem Program.ofChars_of_readChars {text : List Char} {document : Json}
    (read : Json.readChars text = .ok document) :
    ofChars text = (ofJson document).mapError .misshapen := by
  rw [ofChars, read]
  dsimp only
  rw [load_eq_of_showable (Json.readChars_sound read).showable]
  cases ofJson document <;> rfl

end RobotCity
