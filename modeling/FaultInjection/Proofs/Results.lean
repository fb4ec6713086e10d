import Mathlib.Data.Option.Basic

/-!
# Results of readers

What is read in several steps is accepted if each step accepts it.  Otherwise the first step that
refuses it says why (`errorOf?_bind`).
-/

namespace FaultInjection

variable {ε ε' α β : Type} {x : Except ε α}

/-! ## Results that are accepted -/

theorem bind_eq_ok_iff {f : α → Except ε β} {b : β} :
    (x >>= f) = .ok b ↔ ∃ a, x = .ok a ∧ f a = .ok b := by
  cases x <;> simp [bind, Except.bind]

theorem map_eq_ok_iff {f : α → β} {b : β} : x.map f = .ok b ↔ ∃ a, x = .ok a ∧ f a = b := by
  cases x <;> simp [Except.map]

theorem mapError_eq_ok_iff {f : ε → ε'} {a : α} : x.mapError f = .ok a ↔ x = .ok a := by
  cases x <;> simp [Except.mapError]

theorem toOption_eq_some_iff {a : α} : x.toOption = some a ↔ x = .ok a := by
  cases x <;> simp [Except.toOption]

/-! ## Errors -/

theorem mapError_eq_error_iff {f : ε → ε'} {e : ε'} :
    x.mapError f = .error e ↔ ∃ cause, x = .error cause ∧ e = f cause := by
  cases x <;> simp [Except.mapError, eq_comm]

/-- The error of something that was read. -/
def errorOf? : Except ε α → Option ε
  | .error e => some e
  | .ok _ => none

theorem errorOf?_eq_some_iff {e : ε} : errorOf? x = some e ↔ x = .error e := by
  cases x <;> simp [errorOf?]

theorem errorOf?_eq_none_iff : errorOf? x = none ↔ ∃ a, x = .ok a := by
  cases x <;> simp [errorOf?]

theorem errorOf?_map (f : α → β) : errorOf? (x.map f) = errorOf? x := by
  cases x <;> rfl

/-- What is read first can go wrong first. -/
theorem errorOf?_bind {f : α → Except ε β} {rest : Option ε}
    (h : ∀ a, x = .ok a → errorOf? (f a) = rest) : errorOf? (x >>= f) = (errorOf? x).or rest := by
  cases x with
  | error e => rfl
  | ok a => exact h a rfl

end FaultInjection
