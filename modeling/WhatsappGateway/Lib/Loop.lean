import Mathlib.Logic.Basic

/-!
Loops that end. `tick s` is the next state, or none when the loop is over. The rule for total
correctness has an invariant, a measure that each step lowers, and a postcondition of the states
in which the loop is over.
-/

namespace WhatsappGateway.Lib

variable {σ : Type*}

/-- The state after `fuel` steps, or when the loop is over. -/
def runFor (tick : σ → Option σ) : Nat → σ → σ
  | 0, s => s
  | fuel + 1, s =>
    match tick s with
    | none => s
    | some t => runFor tick fuel t

/-- With enough fuel the loop gets from `s` to `t`, and more fuel makes no difference. -/
def EndsIn (tick : σ → Option σ) (s t : σ) : Prop :=
  ∃ enough, ∀ fuel, enough ≤ fuel → runFor tick fuel s = t

section

variable {tick : σ → Option σ} {s t u : σ}

theorem EndsIn.over (h : tick s = none) : EndsIn tick s s := by
  refine ⟨0, ?_⟩
  intro fuel _
  cases fuel with
  | zero => rfl
  | succ fuel => simp only [runFor, h]

theorem EndsIn.next (h : tick s = some t) (hends : EndsIn tick t u) : EndsIn tick s u := by
  obtain ⟨enough, hrun⟩ := hends
  refine ⟨enough + 1, ?_⟩
  intro fuel hfuel
  cases fuel with
  | zero => omega
  | succ fuel =>
    simp only [runFor, h]
    exact hrun fuel (Nat.le_of_succ_le_succ hfuel)

/-- The loop gets from `s` to `t`, and is over there. -/
inductive Halts (tick : σ → Option σ) : σ → σ → Prop where
  | ended {s : σ} : tick s = none → Halts tick s s
  | moved {s t u : σ} : tick s = some t → Halts tick t u → Halts tick s u

theorem halts_iff_of_next (h : tick s = some t) : Halts tick s u ↔ Halts tick t u := by
  constructor
  · intro hhalts
    cases hhalts with
    | ended hover =>
      rw [h] at hover
      cases hover
    | moved hnext hrest =>
      rw [h] at hnext
      obtain rfl := Option.some.inj hnext
      exact hrest
  · exact Halts.moved h

/-- A loop that comes back to where it is does not halt. -/
theorem not_halts_of_cycle (h : tick s = some s) : ¬ Halts tick s t := by
  intro hhalts
  generalize hfrom : s = u at hhalts
  induction hhalts with
  | ended hover =>
    rw [← hfrom, h] at hover
    cases hover
  | moved hnext _ ih =>
    rw [← hfrom, h] at hnext
    exact ih (Option.some.inj hnext)

theorem Halts.eq_runFor {fuel : Nat} (h : Halts tick s t)
    (hover : tick (runFor tick fuel s) = none) : t = runFor tick fuel s := by
  induction fuel generalizing s with
  | zero =>
    cases h with
    | ended => rfl
    | moved hnext =>
      rw [runFor] at hover
      rw [hover] at hnext
      cases hnext
  | succ fuel ih =>
    cases h with
    | ended hnone => simp only [runFor, hnone]
    | moved hnext hrest =>
      simp only [runFor, hnext] at hover ⊢
      exact ih hrest hover

/-- The loop rule. -/
theorem endsIn_of_measure {Inv Post : σ → Prop} (measure : σ → Nat)
    (hstep : ∀ s, Inv s → (tick s = none ∧ Post s) ∨
      ∃ t, tick s = some t ∧ Inv t ∧ measure t < measure s)
    (hinv : Inv s) : ∃ t, EndsIn tick s t ∧ Post t := by
  induction hmeasure : measure s using Nat.strongRecOn generalizing s with
  | ind m ih =>
    subst hmeasure
    rcases hstep s hinv with ⟨hover, hpost⟩ | ⟨t, hnext, hkept, hlower⟩
    · exact ⟨s, .over hover, hpost⟩
    · obtain ⟨last, hends, hpost⟩ := ih (measure t) hlower hkept rfl
      exact ⟨last, .next hnext hends, hpost⟩

end

end WhatsappGateway.Lib
