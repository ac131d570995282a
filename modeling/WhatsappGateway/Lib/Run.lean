import Mathlib.Logic.Basic

/-!
Runs of a partial step function. `step s a = none` means that action `a` is
not enabled in state `s`. A run carries a guard on each of its steps, read in
the state which the step leaves: an assumption about the environment or a
condition under which a protocol is used is such a guard, and a property of
every reachable state is an invariant of the guarded runs.
-/

namespace WhatsappGateway.Lib

variable {σ α : Type*}

/-- `Run step guard s as t`: the actions `as` lead from `s` to `t`, and each
of them satisfies `guard` in the state it is taken in. -/
inductive Run (step : σ → α → Option σ) (guard : σ → α → Prop) :
    σ → List α → σ → Prop where
  | nil (s : σ) : Run step guard s [] s
  | cons {s t u : σ} {a : α} {as : List α} : guard s a → step s a = some t →
      Run step guard t as u → Run step guard s (a :: as) u

namespace Run

variable {step : σ → α → Option σ} {guard guard' : σ → α → Prop}
  {s t u : σ} {a : α} {as bs : List α}

theorem single (hguard : guard s a) (hstep : step s a = some t) :
    Run step guard s [a] t :=
  .cons hguard hstep (.nil t)

theorem append (first : Run step guard s as t) (second : Run step guard t bs u) :
    Run step guard s (as ++ bs) u := by
  induction first with
  | nil => exact second
  | cons hguard hstep _ ih => exact .cons hguard hstep (ih second)

/-- The run rule: what every guarded step preserves holds at the end of every
guarded run from a state where it holds. -/
theorem invariant {Inv : σ → Prop} (run : Run step guard s as t) (hstart : Inv s)
    (hstep : ∀ s a t, guard s a → step s a = some t → Inv s → Inv t) : Inv t := by
  induction run with
  | nil => exact hstart
  | cons hguard hnext _ ih => exact ih (hstep _ _ _ hguard hnext hstart)

theorem mono (run : Run step guard s as t)
    (himp : ∀ s a, guard s a → guard' s a) : Run step guard' s as t := by
  induction run with
  | nil => exact .nil _
  | cons hguard hnext _ ih => exact .cons (himp _ _ hguard) hnext ih

/-- A guard may use what is already known to hold along the run. -/
theorem strengthen {Inv : σ → Prop} (run : Run step guard s as t) (hstart : Inv s)
    (hstep : ∀ s a t, guard s a → step s a = some t → Inv s → Inv t) :
    Run step (fun s a => guard s a ∧ Inv s) s as t := by
  induction run with
  | nil => exact .nil _
  | cons hguard hnext _ ih =>
    exact .cons ⟨hguard, hstart⟩ hnext (ih (hstep _ _ _ hguard hnext hstart))

end Run

/-- Execute a list of actions; `none` when one of them is not enabled. -/
def exec (step : σ → α → Option σ) : σ → List α → Option σ
  | s, [] => some s
  | s, a :: as => (step s a).bind fun t => exec step t as

/-- The guard holds at each step of the execution. -/
def Guarded (step : σ → α → Option σ) (guard : σ → α → Prop) : σ → List α → Prop
  | _, [] => True
  | s, a :: as => guard s a ∧ ∀ t ∈ step s a, Guarded step guard t as

instance Guarded.decidable {step : σ → α → Option σ} {guard : σ → α → Prop}
    [∀ s a, Decidable (guard s a)] : ∀ s as, Decidable (Guarded step guard s as)
  | _, [] => inferInstanceAs (Decidable True)
  | s, a :: as =>
    have (t : σ) : Decidable (Guarded step guard t as) := Guarded.decidable t as
    inferInstanceAs (Decidable (guard s a ∧ ∀ t ∈ step s a, Guarded step guard t as))

/-- The rule for a property that a run keeps as long as its steps are good: it holds at the
end exactly when it holds at the start and each step is good. -/
theorem Run.good_iff {step : σ → α → Option σ} {guard good : σ → α → Prop} {Inv P : σ → Prop}
    {s t : σ} {as : List α} (run : Run step guard s as t) (hstart : Inv s)
    (hstep : ∀ s a t, guard s a → step s a = some t → Inv s → Inv t ∧ (P t ↔ P s ∧ good s a)) :
    P t ↔ P s ∧ Guarded step good s as := by
  induction run with
  | nil => simp [Guarded]
  | cons hguard hnext _ ih =>
    obtain ⟨hinv, hone⟩ := hstep _ _ _ hguard hnext hstart
    rw [ih hinv, hone, and_assoc]
    simp [Guarded, hnext]

/-- The property holds in each state of the execution. -/
def Always (step : σ → α → Option σ) (P : σ → Prop) : σ → List α → Prop
  | s, [] => P s
  | s, a :: as => P s ∧ ∀ t ∈ step s a, Always step P t as

/-- The rule for a property that only the good steps keep: it holds in each state of a run
exactly when each step is good. -/
theorem Run.always_iff {step : σ → α → Option σ} {guard good : σ → α → Prop}
    {Inv P : σ → Prop} {s t : σ} {as : List α} (run : Run step guard s as t)
    (hstart : Inv s) (hholds : P s)
    (hstep : ∀ s a t, guard s a → step s a = some t → Inv s → P s →
      Inv t ∧ (P t ↔ good s a)) :
    Always step P s as ↔ Guarded step good s as := by
  induction run with
  | nil => exact ⟨fun _ => trivial, fun _ => hholds⟩
  | @cons s t u a as hguard hnext rest ih =>
    obtain ⟨hinv, hone⟩ := hstep _ _ _ hguard hnext hstart hholds
    simp only [Always, Guarded, hnext, Option.mem_some_iff, forall_eq', hholds, true_and]
    constructor
    · intro halways
      have hnow : P t := by
        cases as with
        | nil => exact halways
        | cons => exact halways.1
      exact ⟨hone.mp hnow, (ih hinv hnow).mp halways⟩
    · rintro ⟨hgood, hrest⟩
      exact (ih hinv (hone.mpr hgood)).mpr hrest

theorem Run.of_exec {step : σ → α → Option σ} {guard : σ → α → Prop} {s t : σ}
    {as : List α} (hexec : exec step s as = some t)
    (hguard : Guarded step guard s as) : Run step guard s as t := by
  induction as generalizing s with
  | nil =>
    obtain rfl : s = t := Option.some.inj hexec
    exact .nil s
  | cons a as ih =>
    obtain ⟨next, hstep, hrest⟩ := Option.bind_eq_some_iff.mp hexec
    exact .cons hguard.1 hstep (ih hrest (hguard.2 next hstep))

/-- Without a guard, an execution is a run. -/
theorem Run.of_exec_free {step : σ → α → Option σ} {s t : σ} {as : List α}
    (hexec : exec step s as = some t) : Run step (fun _ _ => True) s as t := by
  have hguard : ∀ s as, Guarded step (fun _ _ => True) s as := by
    intro s as
    induction as generalizing s with
    | nil => trivial
    | cons a as ih => exact ⟨trivial, fun t _ => ih t⟩
  exact Run.of_exec hexec (hguard s as)

/-- The state at the end of an execution; the start state if it gets stuck. -/
def final (step : σ → α → Option σ) (s : σ) (as : List α) : σ :=
  (exec step s as).getD s

theorem exec_eq_final {step : σ → α → Option σ} {s : σ} {as : List α}
    (hsome : (exec step s as).isSome = true) : exec step s as = some (final step s as) := by
  obtain ⟨t, hexec⟩ := Option.isSome_iff_exists.mp hsome
  have hfinal : final step s as = t := by simp [final, hexec]
  rw [hexec, hfinal]

theorem Run.to_final {step : σ → α → Option σ} {guard : σ → α → Prop} {s : σ}
    {as : List α} (hsome : (exec step s as).isSome = true)
    (hguard : Guarded step guard s as) : Run step guard s as (final step s as) :=
  Run.of_exec (exec_eq_final hsome) hguard

theorem Run.to_final_free {step : σ → α → Option σ} {s : σ} {as : List α}
    (hsome : (exec step s as).isSome = true) :
    Run step (fun _ _ => True) s as (final step s as) :=
  Run.of_exec_free (exec_eq_final hsome)

end WhatsappGateway.Lib
