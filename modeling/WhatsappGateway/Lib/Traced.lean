import Mathlib.Logic.Basic

/-!
Computations that leave a trace. A computation asks a world, which answers by the number of
events so far; it adds the events that it causes to the trace, and it may fail. `Adds` says
what a computation adds to any trace, together with its result. There is one rule for each
way to build a computation.
-/

namespace WhatsappGateway.Lib

structure Traced (ω ε κ α : Type) where
  run : ω → List ε → Except κ α × List ε

namespace Traced

variable {ω ε κ α β : Type}

/-- A failure ends the computation, and keeps the events that led to it. -/
instance : Monad (Traced ω ε κ) where
  pure a := ⟨fun _ t => (.ok a, t)⟩
  bind m f := ⟨fun w t =>
    match m.run w t with
    | (.ok a, later) => (f a).run w later
    | (.error err, later) => (.error err, later)⟩

instance : MonadLift (Except κ) (Traced ω ε κ) where
  monadLift x := ⟨fun _ t => (x, t)⟩

/-- Ask the world for something that is no event. -/
def inspect (f : ω → Nat → Except κ α) : Traced ω ε κ α := ⟨fun w t => (f w t.length, t)⟩

/-- Cause an event, which the world shapes. -/
def observe (f : ω → Nat → ε × Except κ α) : Traced ω ε κ α := ⟨fun w t =>
  let (event, res) := f w t.length
  (res, t ++ [event])⟩

/-- The events of a computation that starts without any. -/
def events (m : Traced ω ε κ α) (w : ω) : List ε := (m.run w []).2

section Bind

variable {m : Traced ω ε κ α} {f : α → Traced ω ε κ β} {w : ω} {t u : List ε}

theorem run_bind_ok {a : α} (h : m.run w t = (.ok a, u)) :
    (m >>= f).run w t = (f a).run w u := by
  simp only [Bind.bind, h]

theorem run_bind_error {err : κ} (h : m.run w t = (.error err, u)) :
    (m >>= f).run w t = (.error err, u) := by
  simp only [Bind.bind, h]

end Bind

def Adds (w : ω) (m : Traced ω ε κ α) (Q : Except κ α → List ε → Prop) : Prop :=
  ∀ t, ∃ s, (m.run w t).2 = t ++ s ∧ Q (m.run w t).1 s

namespace Adds

variable {w : ω} {m : Traced ω ε κ α} {f : α → Traced ω ε κ β} {x : Except κ α}
  {P P' : Except κ α → List ε → Prop} {Q : Except κ β → List ε → Prop}

theorem mono (h : Adds w m P) (himp : ∀ res s, P res s → P' res s) : Adds w m P' := by
  intro t
  obtain ⟨s, hadded, hs⟩ := h t
  exact ⟨s, hadded, himp _ _ hs⟩

theorem pure {a : α} (h : P (.ok a) []) : Adds w (Pure.pure a) P :=
  fun t => ⟨[], (List.append_nil t).symm, h⟩

theorem inspect {g : ω → Nat → Except κ α} (h : ∀ k, P (g w k) []) : Adds w (inspect g) P :=
  fun t => ⟨[], (List.append_nil t).symm, h t.length⟩

theorem observe {g : ω → Nat → ε × Except κ α} (h : ∀ k, P (g w k).2 [(g w k).1]) :
    Adds w (observe g) P :=
  fun t => ⟨[(g w t.length).1], rfl, h t.length⟩

theorem bind (h : Adds w m P) (hfailed : ∀ err s, P (.error err) s → Q (.error err) s)
    (hnext : ∀ a s, P (.ok a) s → Adds w (f a) fun res later => Q res (s ++ later)) :
    Adds w (m >>= f) Q := by
  intro t
  obtain ⟨s, hadded, hs⟩ := h t
  rcases hm : m.run w t with ⟨res, later⟩
  rw [hm] at hadded hs
  obtain rfl : later = t ++ s := hadded
  cases res with
  | error err =>
    rw [run_bind_error hm]
    exact ⟨s, rfl, hfailed err s hs⟩
  | ok a =>
    rw [run_bind_ok hm]
    obtain ⟨rest, hrest, hq⟩ := hnext a s hs (t ++ s)
    exact ⟨s ++ rest, by rw [hrest, List.append_assoc], hq⟩

/-- A lifted result adds nothing, and what follows may use that it was a success. -/
theorem bind_lift (hfailed : ∀ err, x = .error err → Q (.error err) [])
    (hnext : ∀ a, x = .ok a → Adds w (f a) Q) :
    Adds w ((liftM x : Traced ω ε κ α) >>= f) Q := by
  cases x with
  | error err => exact fun t => ⟨[], (List.append_nil t).symm, hfailed err rfl⟩
  | ok a => exact hnext a rfl

theorem events (h : Adds w m P) : ∃ res, P res (m.events w) := by
  obtain ⟨s, hadded, hs⟩ := h []
  rw [List.nil_append] at hadded
  exact ⟨_, by rwa [← hadded] at hs⟩

end Adds

end Traced

end WhatsappGateway.Lib
