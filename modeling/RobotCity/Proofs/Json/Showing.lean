import RobotCity.Json.Printer

/-!
# Values that can be shown

A value can be shown exactly if all that is in it can be shown; only integers themselves can be too long for
it.
-/

namespace RobotCity
namespace Json

theorem itemIntegers_eq_flatMap (items : List Json) : itemIntegers items = items.flatMap integers := by
  induction items with
  | nil => rfl
  | cons item rest ih => rw [itemIntegers, ih, List.flatMap_cons]

theorem memberIntegers_eq_flatMap (members : List (Text × Json)) :
    memberIntegers members = members.flatMap (·.2.integers) := by
  induction members with
  | nil => rfl
  | cons entry rest ih => rw [memberIntegers, ih, List.flatMap_cons]

theorem showable_null : null.Showable :=
  List.forall_mem_nil _

theorem showable_string (text : Text) : (string text).Showable :=
  List.forall_mem_nil _

theorem showable_integer_iff {value : Int} : (integer value).Showable ↔ Text.IsShort value :=
  List.forall_mem_singleton

theorem showable_array_iff {items : List Json} :
    (array items).Showable ↔ ∀ item ∈ items, item.Showable := by
  rw [Showable, integers, itemIntegers_eq_flatMap, List.forall_mem_flatMap]
  rfl

theorem showable_object_iff {members : List (Text × Json)} :
    (object members).Showable ↔ ∀ entry ∈ members, entry.2.Showable := by
  rw [Showable, integers, memberIntegers_eq_flatMap, List.forall_mem_flatMap]
  rfl

namespace Showable

variable {members : List (Text × Json)} {name : Text} {value : Json}

theorem of_member? (showable : (object members).Showable)
    (found : member? members name = some value) : value.Showable := by
  rw [member?, List.lookup_eq_some_iff] at found
  obtain ⟨before, after, rfl, -⟩ := found
  exact showable_object_iff.mp showable (name, value) (by simp)

theorem of_member (showable : (object members).Showable) (name : Text) :
    (member members name).Showable := by
  rw [member]
  cases found : member? members name with
  | none => exact showable_null
  | some value => exact showable.of_member? found

theorem shownText_eq (showable : value.Showable) :
    value.shownText = .ok (String.ofList value.shown) :=
  if_pos showable

theorem render_eq (showable : value.Showable) (layout : Layout) :
    value.render layout = .ok (String.ofList (value.written layout 0)) :=
  if_pos showable

theorem exists_asName (showable : value.Showable) : ∃ name, value.asName = .ok name := by
  cases value with
  | string text => exact ⟨_, rfl⟩
  | _ => exact ⟨_, showable.shownText_eq⟩

end Showable

theorem shownText_of_not_showable {value : Json} (long : ¬value.Showable) :
    value.shownText = .error .longInteger :=
  if_neg long

end Json
end RobotCity
