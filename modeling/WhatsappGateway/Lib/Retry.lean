import WhatsappGateway.Lib.Run

/-!
Hints about when to come again. A request that is denied is told from when on it
will be granted. Such a hint is honest when the request is granted at any instant
from then on, whatever quiet steps the system has taken in between.
-/

namespace WhatsappGateway.Lib

variable {σ α τ : Type*} [LE τ]

/-- From `s` on the request is granted at every instant from `due` on. `granted t now`
says that it is granted when it is made in state `t` at the instant `now`. -/
def Honest (step : σ → α → Option σ) (quiet : σ → α → Prop) (granted : σ → τ → Prop)
    (s : σ) (due : τ) : Prop :=
  ∀ as t later, Run step quiet s as t → due ≤ later → granted t later

/-- When quiet steps take no grant away, only the state that the denial leaves matters. -/
theorem honest_iff {step : σ → α → Option σ} {quiet : σ → α → Prop} {granted : σ → τ → Prop}
    {s : σ} {due : τ}
    (hkeep : ∀ s a t later, quiet s a → step s a = some t → granted s later → granted t later) :
    Honest step quiet granted s due ↔ ∀ later, due ≤ later → granted s later := by
  constructor
  · intro hhonest later hlater
    exact hhonest [] s later (.nil s) hlater
  · intro hgranted as t later hrun hlater
    apply hrun.invariant (hgranted later hlater)
    intro s a t hquiet hstep
    exact hkeep s a t later hquiet hstep

end WhatsappGateway.Lib
