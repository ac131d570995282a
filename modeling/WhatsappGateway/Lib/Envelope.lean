import Mathlib.Algebra.Order.BigOperators.Group.List
import Mathlib.Algebra.Order.Field.Basic
import Mathlib.Tactic.Linarith
import Mathlib.Tactic.Ring

/-!
Rate envelopes. A log of grants meets the envelope of a burst and a rate when no
closed interval of time holds more than the burst and what the rate adds over the
interval. A source that keeps a level, refilled at the rate up to the burst and
spent by each grant, meets its envelope: `Backed` is the invariant that carries
the bound, with one lemma for each thing that can happen to the level.
-/

namespace WhatsappGateway.Lib

variable {K : Type*} [Field K] [LinearOrder K]

structure Grant (K : Type*) where
  amount : K
  time : K

namespace Grant

/-- What the grants of the log in the closed interval add up to. -/
def within (start stop : K) (log : List (Grant K)) : K :=
  ((log.filter fun g => start ≤ g.time ∧ g.time ≤ stop).map amount).sum

/-- What the grants of the log from an instant on add up to. -/
def since (start : K) (log : List (Grant K)) : K :=
  ((log.filter fun g => start ≤ g.time).map amount).sum

variable {start stop : K} {g : Grant K} {log : List (Grant K)}

@[simp] theorem within_nil : within start stop ([] : List (Grant K)) = 0 := rfl

@[simp] theorem since_nil : since start ([] : List (Grant K)) = 0 := rfl

theorem since_cons_of_le (h : start ≤ g.time) :
    since start (g :: log) = g.amount + since start log := by
  simp [since, h]

/-- Nothing is granted after the last grant. -/
theorem since_eq_zero (h : ∀ g ∈ log, g.time < start) : since start log = 0 := by
  have hnone : (log.filter fun g => start ≤ g.time) = [] := by
    rw [List.filter_eq_nil_iff]
    intro g hg
    simpa using h g hg
  simp [since, hnone]

theorem within_cons_of_lt (h : stop < g.time) :
    within start stop (g :: log) = within start stop log := by
  simp [within, h]

/-- An interval that reaches past the last grant holds what was granted since its start. -/
theorem within_eq_since (h : ∀ g ∈ log, g.time ≤ stop) :
    within start stop log = since start log := by
  have hsame : (log.filter fun g => start ≤ g.time ∧ g.time ≤ stop) =
      log.filter fun g => start ≤ g.time := by
    apply List.filter_congr
    intro g hg
    simp [h g hg]
  simp only [within, since, hsame]

end Grant

open Grant

/-- The log meets the envelope of `burst` and `rate`. -/
def Envelope (burst rate : K) (log : List (Grant K)) : Prop :=
  ∀ start stop, start ≤ stop → within start stop log ≤ burst + rate * (stop - start)

/-- The log is backed by a level that was last refilled at `last`: what is left and what
was granted since an instant come from a full burst and the refills since then. -/
structure Backed (burst rate level last : K) (log : List (Grant K)) : Prop where
  level_nonneg : 0 ≤ level
  level_le : level ≤ burst
  past : ∀ g ∈ log, g.time ≤ last
  since_le : ∀ start ≤ last, level + since start log ≤ burst + rate * (last - start)
  envelope : Envelope burst rate log

namespace Backed

variable [IsStrictOrderedRing K] {burst rate level last now amount : K} {log : List (Grant K)}

/-- A full level backs the empty log. -/
theorem full (hburst : 0 ≤ burst) (hrate : 0 ≤ rate) (last : K) :
    Backed burst rate burst last [] where
  level_nonneg := hburst
  level_le := le_rfl
  past := by simp
  since_le start hstart := by
    have hadded : 0 ≤ rate * (last - start) := mul_nonneg hrate (sub_nonneg.mpr hstart)
    simpa using hadded
  envelope start stop hle := by
    have hadded : 0 ≤ rate * (stop - start) := mul_nonneg hrate (sub_nonneg.mpr hle)
    rw [within_nil]
    exact add_nonneg hburst hadded

theorem refill (h : Backed burst rate level last log) (hrate : 0 ≤ rate) (hnow : last ≤ now) :
    Backed burst rate (min burst (level + (now - last) * rate)) now log := by
  have hadded : 0 ≤ (now - last) * rate := mul_nonneg (sub_nonneg.mpr hnow) hrate
  refine ⟨?_, min_le_left _ _, fun g hg => (h.past g hg).trans hnow, ?_, h.envelope⟩
  · exact le_min (h.level_nonneg.trans h.level_le) (add_nonneg h.level_nonneg hadded)
  · intro start hstart
    rcases le_or_gt start last with hle | hlt
    · have hmin := min_le_right burst (level + (now - last) * rate)
      have hsince := h.since_le start hle
      linarith
    · -- Nothing was granted since `start`, and the level is at most the burst.
      have hzero : since start log = 0 := since_eq_zero fun g hg => (h.past g hg).trans_lt hlt
      have hmin := min_le_left burst (level + (now - last) * rate)
      have hrest : 0 ≤ rate * (now - start) := mul_nonneg hrate (sub_nonneg.mpr hstart)
      rw [hzero]
      linarith

theorem spend (h : Backed burst rate level last log) (hrate : 0 ≤ rate) (hamount : 0 ≤ amount)
    (hle : amount ≤ level) : Backed burst rate (level - amount) last (⟨amount, last⟩ :: log) := by
  have hpast : ∀ g ∈ (⟨amount, last⟩ : Grant K) :: log, g.time ≤ last := by
    intro g hg
    rcases List.mem_cons.mp hg with rfl | hg
    · exact le_rfl
    · exact h.past g hg
  have hsince : ∀ start ≤ last,
      level - amount + since start (⟨amount, last⟩ :: log) ≤ burst + rate * (last - start) := by
    intro start hstart
    rw [since_cons_of_le hstart]
    have hbefore := h.since_le start hstart
    linarith
  refine ⟨sub_nonneg.mpr hle, ?_, hpast, hsince, ?_⟩
  · have hlevel := h.level_le
    linarith
  · intro start stop hstop
    rcases lt_or_ge stop last with hlt | hge
    · rw [within_cons_of_lt hlt]
      exact h.envelope start stop hstop
    · rw [within_eq_since fun g hg => (hpast g hg).trans hge]
      rcases le_or_gt start last with hstart | hstart
      · have hbound := hsince start hstart
        have hrest : 0 ≤ rate * (stop - last) := mul_nonneg hrate (sub_nonneg.mpr hge)
        linarith
      · have hzero : since start ((⟨amount, last⟩ : Grant K) :: log) = 0 :=
          since_eq_zero fun g hg => (hpast g hg).trans_lt hstart
        have hburst : 0 ≤ burst := h.level_nonneg.trans h.level_le
        have hrest : 0 ≤ rate * (stop - start) := mul_nonneg hrate (sub_nonneg.mpr hstop)
        rw [hzero]
        exact add_nonneg hburst hrest

end Backed

end WhatsappGateway.Lib
