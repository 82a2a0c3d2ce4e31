/-!
# Outcomes of computations

A computation that comes to an end does so step by step, and one that stops does so at one of its steps.
That its errors are put differently changes nothing else about it.
-/

namespace RobotCity

variable {ε ε' α β : Type}

theorem ok_bind (value : α) (next : α → Except ε β) : (Except.ok value >>= next) = next value := rfl

/-- A computation that comes to an end does so step by step. -/
theorem bind_eq_ok {outcome : Except ε α} {rest : α → Except ε β} {last : β}
    (ended : outcome >>= rest = .ok last) :
    ∃ result, outcome = .ok result ∧ rest result = .ok last := by
  cases outcome with
  | error stop => cases ended
  | ok result => exact ⟨result, rfl, ended⟩

/-- A computation that stops does so at one of its steps. -/
theorem bind_eq_error {outcome : Except ε α} {rest : α → Except ε β} {stop : ε}
    (stopped : outcome >>= rest = .error stop) :
    outcome = .error stop ∨ ∃ result, outcome = .ok result ∧ rest result = .error stop := by
  cases outcome with
  | error other =>
      cases stopped
      exact .inl rfl
  | ok result => exact .inr ⟨result, rfl, stopped⟩

theorem mapError_ok (change : ε → ε') (value : α) :
    (Except.ok value).mapError change = .ok value := rfl

theorem mapError_error (change : ε → ε') (error : ε) :
    (Except.error error : Except ε α).mapError change = .error (change error) := rfl

theorem mapError_eq_ok_iff {change : ε → ε'} {outcome : Except ε α} {result : α} :
    outcome.mapError change = .ok result ↔ outcome = .ok result := by
  cases outcome <;> simp [mapError_ok, mapError_error]

theorem mapError_eq_error_iff {change : ε → ε'} {outcome : Except ε α} {stop : ε'} :
    outcome.mapError change = .error stop ↔ ∃ error, outcome = .error error ∧ change error = stop := by
  cases outcome <;> simp [mapError_ok, mapError_error]

end RobotCity
