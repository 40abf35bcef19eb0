/-!
# What a result says about its steps

A result is a value or an error.  What is made of a result, and what is done behind one, has a value
just if the result has, and what fails tells which step it was that failed.
-/

namespace Tapeline

variable {ε α β : Type}

/-- What is made of a result is a value if the result is one. -/
theorem map_eq_ok_iff {r : Except ε α} {f : α → β} {b : β} :
    r.map f = .ok b ↔ ∃ a, r = .ok a ∧ f a = b := by
  cases r <;> simp [Except.map]

/-- What is made of a result fails as the result does. -/
theorem map_eq_error_iff {r : Except ε α} {f : α → β} {e : ε} :
    r.map f = .error e ↔ r = .error e := by
  cases r <;> simp [Except.map]

/-- A step that succeeds has a first part that succeeds. -/
theorem bind_eq_ok {r : Except ε α} {f : α → Except ε β} {b : β} (h : (r >>= f) = .ok b) :
    ∃ a, r = .ok a ∧ f a = .ok b := by
  cases r with
  | error e => cases h
  | ok a => exact ⟨a, rfl, h⟩

end Tapeline
