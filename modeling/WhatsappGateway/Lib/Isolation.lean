import Mathlib.Logic.Basic

/-!
Parties that share a state. A party is isolated from the others when their steps change nothing
of what it sees, and its own steps read nothing else; then a whole run looks to it as if it were
alone.
-/

namespace WhatsappGateway.Lib

variable {σ α ω : Type*}

/-- The party whose steps are `mine` is isolated, as far as `view` shows the state to it. The
invariant may say whose the parts of the state are. -/
structure Isolates (step : σ → α → σ) (allowed : α → Prop) (Inv : σ → Prop) (mine : α → Prop)
    (view : σ → ω) : Prop where
  keeps : ∀ {s a}, allowed a → Inv s → Inv (step s a)
  confined : ∀ {s a}, allowed a → Inv s → ¬mine a → view (step s a) = view s
  own : ∀ {s t a}, Inv s → mine a → view s = view t → view (step s a) = view (step t a)

namespace Isolates

variable {step : σ → α → σ} {allowed mine : α → Prop} {Inv : σ → Prop} {view : σ → ω} {s t : σ}
  {as : List α}

/-- The steps of the others may be left out of a run. -/
theorem run [DecidablePred mine] (h : Isolates step allowed Inv mine view)
    (hallowed : ∀ a ∈ as, allowed a) (hs : Inv s) (hview : view s = view t) :
    view (as.foldl step s) = view ((as.filter fun a => mine a).foldl step t) := by
  induction as generalizing s t with
  | nil => exact hview
  | cons a as ih =>
    obtain ⟨ha, has⟩ := List.forall_mem_cons.mp hallowed
    by_cases hmine : mine a
    · rw [List.filter_cons_of_pos (p := fun a => mine a) (decide_eq_true hmine)]
      exact ih has (h.keeps ha hs) (h.own hs hmine hview)
    · rw [List.filter_cons_of_neg (p := fun a => mine a) (by rwa [decide_eq_true_iff])]
      exact ih has (h.keeps ha hs) ((h.confined ha hs hmine).trans hview)

end Isolates

end WhatsappGateway.Lib
