import Mathlib.Data.List.Basic
import RobotCity.Text.Newline

/-!
# Line ends that are written alike

A text without carriage returns is left as it is.  Otherwise every line end becomes one line feed,
whether it took one character or two, and all other characters are kept.
-/

namespace RobotCity
namespace Text

theorem unifyNewlines_of_no_return {text : List Char} (no_return : ∀ c ∈ text, c ≠ '\r') :
    unifyNewlines text = text := by
  fun_induction unifyNewlines text with
  | case1 => rfl
  | case2 rest ih => exact absurd rfl (no_return _ List.mem_cons_self)
  | case3 rest other ih => exact absurd rfl (no_return _ List.mem_cons_self)
  | case4 c rest other lone ih => rw [ih (List.forall_mem_cons.mp no_return).2]

theorem unifyNewlines_cons {c : Char} (kept : c ≠ '\r') (rest : List Char) :
    unifyNewlines (c :: rest) = c :: unifyNewlines rest := by
  rw [unifyNewlines]
  · exact fun _ same _ => kept same
  · exact kept

/-- A line end that starts with a carriage return takes one character or two. -/
theorem unifyNewlines_return (rest : List Char) :
    ∃ behind, (rest = behind ∨ rest = '\n' :: behind) ∧
      unifyNewlines ('\r' :: rest) = '\n' :: unifyNewlines behind := by
  by_cases pair : ∃ behind, rest = '\n' :: behind
  · obtain ⟨behind, rfl⟩ := pair
    exact ⟨behind, .inr rfl, by rw [unifyNewlines]⟩
  · refine ⟨rest, .inl rfl, ?_⟩
    rw [unifyNewlines]
    exact fun behind same => pair ⟨behind, same⟩

/-- A text is empty, starts with a character that is kept or starts with a line end. -/
theorem unifyNewlines_cases {motive : List Char → List Char → Prop} (nil : motive [] [])
    (kept : ∀ c rest, c ≠ '\r' → motive (c :: rest) (c :: unifyNewlines rest))
    (lineEnd : ∀ rest behind, rest = behind ∨ rest = '\n' :: behind →
      unifyNewlines ('\r' :: rest) = '\n' :: unifyNewlines behind →
      motive ('\r' :: rest) ('\n' :: unifyNewlines behind))
    (input : List Char) : motive input (unifyNewlines input) := by
  cases input with
  | nil => exact nil
  | cons c rest =>
      by_cases is_return : c = '\r'
      · obtain ⟨behind, cut, unified⟩ := unifyNewlines_return rest
        rw [is_return, unified]
        exact lineEnd rest behind cut unified
      · rw [unifyNewlines_cons is_return]
        exact kept c rest is_return

theorem unifyNewlines_eq_nil_iff {input : List Char} : unifyNewlines input = [] ↔ input = [] := by
  induction input using unifyNewlines_cases <;> simp

theorem takeWhile_isDigit_unifyNewlines (input : List Char) :
    (unifyNewlines input).takeWhile Char.isDigit = input.takeWhile Char.isDigit := by
  fun_induction unifyNewlines input with
  | case1 => rfl
  | case2 rest ih => rfl
  | case3 rest no_pair ih => rfl
  | case4 c rest no_pair kept ih => rw [List.takeWhile_cons, List.takeWhile_cons, ih]

theorem dropWhile_isDigit_unifyNewlines (input : List Char) :
    (unifyNewlines input).dropWhile Char.isDigit = unifyNewlines (input.dropWhile Char.isDigit) := by
  induction input with
  | nil => rfl
  | cons c rest ih =>
      by_cases digit : c.isDigit
      · have kept : c ≠ '\r' := by
          rintro rfl
          cases digit
        rw [unifyNewlines_cons kept, List.dropWhile_cons_of_pos digit, ih,
          List.dropWhile_cons_of_pos digit]
      · rw [List.dropWhile_cons_of_neg digit]
        cases front : c :: rest using unifyNewlines_cases with
        | nil => cases front
        | kept other =>
            cases front
            exact List.dropWhile_cons_of_neg digit
        | lineEnd => rfl

end Text
end RobotCity
