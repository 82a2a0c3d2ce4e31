import RobotCity.Program.OfJson
import RobotCity.Proofs.Json.Showing
import RobotCity.Proofs.Outcomes

/-!
# Documents that are loaded

What is loaded is what is read.  What is not read is refused for the defect with which its reading ends,
except that an unknown tag cannot be put into words if it is an integer of too many digits or holds one: the
document is then refused for this integer, and no place is told.
-/

namespace RobotCity

/-- A defect is an unknown tag that is an integer of too many digits or holds one. -/
inductive ShapeDefect.ShowsLong : ShapeDefect → Prop
  | statement {tag : Json} : ¬tag.Showable → ShowsLong (.unknownStatement tag)
  | expression {tag : Json} : ¬tag.Showable → ShowsLong (.unknownExpression tag)

namespace ShapeDefect

variable {defect : ShapeDefect}

theorem ShowsLong.message_eq (shows_long : defect.ShowsLong) :
    defect.message = .error .longInteger := by
  cases shows_long with
  | statement long => rw [message, Json.shownText_of_not_showable long, Except.map]
  | expression long => rw [message, Json.shownText_of_not_showable long, Except.map]

theorem exists_message (shown : ¬defect.ShowsLong) : ∃ words, defect.message = .ok words := by
  cases defect with
  | unknownStatement tag =>
      have showable : tag.Showable := Decidable.not_not.mp (mt ShowsLong.statement shown)
      exact ⟨_, by rw [message, showable.shownText_eq, Except.map]⟩
  | unknownExpression tag =>
      have showable : tag.Showable := Decidable.not_not.mp (mt ShowsLong.expression shown)
      exact ⟨_, by rw [message, showable.shownText_eq, Except.map]⟩
  | _ => exact ⟨_, rfl⟩

end ShapeDefect

namespace ShapeError

variable {error : ShapeError}

theorem raised_of_showsLong (shows_long : error.defect.ShowsLong) :
    error.raised = .unshown .longInteger := by
  rw [raised, message, shows_long.message_eq]
  rfl

theorem raised_of_shown (shown : ¬error.defect.ShowsLong) : error.raised = .misshapen error := by
  obtain ⟨words, worded⟩ := ShapeDefect.exists_message shown
  rw [raised, message, worded]
  rfl

end ShapeError

section Loading

variable {α : Type} {read : Place → Json → Except ShapeError α} {place : Place} {value : Json}

theorem loadBy_eq_ok_iff {part : α} :
    loadBy read place value = .ok part ↔ read place value = .ok part :=
  mapError_eq_ok_iff

theorem loadBy_eq_error_iff {reason : LoadError} :
    loadBy read place value = .error reason ↔
      ∃ error, read place value = .error error ∧ error.raised = reason :=
  mapError_eq_error_iff

theorem loadBy_of_refused {error : ShapeError} (refused : read place value = .error error) :
    loadBy read place value = .error error.raised :=
  loadBy_eq_error_iff.mpr ⟨error, refused, rfl⟩

/-- A document is refused for an integer exactly if its reading ends with a tag that shows it. -/
theorem loadBy_eq_unshown_iff {defect : Text.ShowingDefect} :
    loadBy read place value = .error (.unshown defect) ↔
      ∃ error, read place value = .error error ∧ error.defect.ShowsLong := by
  rw [loadBy_eq_error_iff]
  refine exists_congr fun error => and_congr_right fun _ => ?_
  by_cases shows_long : error.defect.ShowsLong
  · cases defect
    simp [shows_long, ShapeError.raised_of_showsLong shows_long]
  · simp [shows_long, ShapeError.raised_of_shown shows_long]

end Loading

namespace Program

variable {document : Json}

theorem load_eq_ok_iff {program : Program} : load document = .ok program ↔ ofJson document = .ok program :=
  loadBy_eq_ok_iff

theorem load_of_refused {error : ShapeError} (refused : ofJson document = .error error) :
    load document = .error error.raised :=
  loadBy_eq_error_iff.mpr ⟨error, refused, rfl⟩

end Program

end RobotCity
