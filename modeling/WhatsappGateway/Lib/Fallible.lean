import Mathlib.Logic.Basic

/-!
Computations that may fail, as a `do` block puts them together.
-/

namespace WhatsappGateway.Lib

variable {ε α β : Type} {x : Except ε α} {f : α → Except ε β}

theorem ok_bind (a : α) (f : α → Except ε β) : (Except.ok a : Except ε α) >>= f = f a := rfl

/-- The whole succeeds when the first part does, and then what comes after. -/
theorem bind_eq_ok {b : β} : x >>= f = .ok b ↔ ∃ a, x = .ok a ∧ f a = .ok b := by
  cases x with
  | error err => simp [bind, Except.bind]
  | ok a => simp [bind, Except.bind]

theorem bind_eq_error {err : ε} :
    x >>= f = .error err ↔ x = .error err ∨ ∃ a, x = .ok a ∧ f a = .error err := by
  cases x with
  | error other => simp [bind, Except.bind]
  | ok a => simp [bind, Except.bind]

theorem mapError_eq_ok {δ : Type} {g : ε → δ} {a : α} (h : x.mapError g = .ok a) : x = .ok a := by
  cases x with
  | error err => cases h
  | ok b => exact congrArg Except.ok (Except.ok.inj h)

end WhatsappGateway.Lib
