import WhatsappGateway.Lib.Envelope

/-!
Fixed windows. A source that counts what it grants in a window, and opens a new window, with a
count of none, at the first request after the end of the last one, keeps to its limit in each
window, and to twice its limit in each interval that is shorter than a window: such an interval
meets two windows at most. `Counted` is the invariant that carries both bounds.
-/

namespace WhatsappGateway.Lib

open Grant

variable {K : Type*} [Field K] [LinearOrder K]
  {limit window count start last now amount first stop : K} {starts : List K} {g : Grant K}
  {log : List (Grant K)}

namespace Grant

theorem since_cons_of_lt (h : g.time < start) : since start (g :: log) = since start log := by
  simp [since, h]

/-- An interval that ends before it starts holds nothing. -/
theorem within_of_lt (h : stop < start) : within start stop log = 0 := by
  have hnone : (log.filter fun g => start ≤ g.time ∧ g.time ≤ stop) = [] := by
    rw [List.filter_eq_nil_iff]
    intro g _
    simp only [decide_eq_true_eq]
    rintro ⟨hstart, hstop⟩
    exact absurd (hstart.trans hstop) (not_le.mpr h)
  rw [within, hnone, List.map_nil, List.sum_nil]

variable [IsStrictOrderedRing K]

/-- What was granted from a later instant on is no more. -/
theorem since_anti (h : ∀ g ∈ log, 0 ≤ g.amount) (hle : first ≤ start) :
    since start log ≤ since first log := by
  induction log with
  | nil => exact le_rfl
  | cons g log ih =>
    have hrest := ih fun g hg => h g (List.mem_cons_of_mem _ hg)
    have hamount := h g List.mem_cons_self
    rcases le_or_gt start g.time with hlate | hearly
    · rw [since_cons_of_le hlate, since_cons_of_le (hle.trans hlate)]
      exact add_le_add_right hrest g.amount
    · rw [since_cons_of_lt hearly]
      rcases le_or_gt first g.time with hmid | hbefore
      · rw [since_cons_of_le hmid]
        exact hrest.trans (le_add_of_nonneg_left hamount)
      · rw [since_cons_of_lt hbefore]
        exact hrest

end Grant

/-- Each window holds at most the limit, and each shorter interval at most twice the limit. -/
structure Capped (limit window : K) (starts : List K) (log : List (Grant K)) : Prop where
  windows : ∀ start ∈ starts, within start (start + window) log ≤ limit
  intervals : ∀ first stop, stop - first < window → within first stop log ≤ 2 * limit

/-- The log is counted by a window that was opened at `start`: the grants since then add up to
the count, and those of a window's length before it to no more than the limit. `last` is the time
of the last request, `starts` are the windows so far. -/
structure Counted (limit window count start last : K) (starts : List K) (log : List (Grant K)) :
    Prop where
  count_nonneg : 0 ≤ count
  count_le : count ≤ limit
  start_le : start ≤ last
  running : last ≤ start + window
  amounts : ∀ g ∈ log, 0 ≤ g.amount
  past : ∀ g ∈ log, g.time ≤ last
  older : ∀ s ∈ starts, s = start ∨ s + window < start
  current : since start log ≤ count
  recent : ∀ first, start - window ≤ first → since first log ≤ count + limit
  capped : Capped limit window starts log

section

variable [IsStrictOrderedRing K]

/-- Without grants nothing is exceeded. -/
theorem capped_nil (hlimit : 0 ≤ limit) (starts : List K) : Capped limit window starts [] where
  windows _ _ := by simpa using hlimit
  intervals _ _ _ := by simpa using hlimit

/-- Nor is it when a window has no length. -/
theorem capped_of_neg (hlimit : 0 ≤ limit) (hwindow : window < 0) (starts : List K)
    (log : List (Grant K)) : Capped limit window starts log where
  windows start _ := by
    rw [within_of_lt (by linarith)]
    exact hlimit
  intervals first stop hshort := by
    rw [within_of_lt (by linarith)]
    linarith

end

namespace Counted

theorem limit_nonneg (h : Counted limit window count start last starts log) : 0 ≤ limit :=
  h.count_nonneg.trans h.count_le

/-- A request that is denied. -/
theorem deny (h : Counted limit window count start last starts log) (hnow : last ≤ now)
    (hrunning : now ≤ start + window) : Counted limit window count start now starts log :=
  { h with
    start_le := h.start_le.trans hnow
    running := hrunning
    past := fun g hg => (h.past g hg).trans hnow }

variable [IsStrictOrderedRing K]

/-- The first window. -/
theorem first_window (hlimit : 0 ≤ limit) (hwindow : 0 ≤ window) (now : K) :
    Counted limit window 0 now now [now] [] where
  count_nonneg := le_rfl
  count_le := hlimit
  start_le := le_rfl
  running := le_add_of_nonneg_right hwindow
  amounts := by simp
  past := by simp
  older := by simp
  current := by simp
  recent _ _ := by simpa using hlimit
  capped := capped_nil hlimit _

/-- A new window, after the end of the last one. -/
theorem new_window (h : Counted limit window count start last starts log) (hwindow : 0 ≤ window)
    (hover : start + window < now) : Counted limit window 0 now now (now :: starts) log := by
  have hbefore : ∀ g ∈ log, g.time < now := fun g hg =>
    ((h.past g hg).trans h.running).trans_lt hover
  have hzero : since now log = 0 := since_eq_zero hbefore
  have hlimit := h.limit_nonneg
  refine ⟨le_rfl, hlimit, le_rfl, le_add_of_nonneg_right hwindow, h.amounts,
    fun g hg => (hbefore g hg).le, ?_, hzero.le, ?_, ?_, h.capped.intervals⟩
  · intro s hs
    rcases List.mem_cons.mp hs with rfl | hold
    · exact .inl rfl
    · rcases h.older s hold with rfl | hlt
      · exact .inr hover
      · exact .inr (by linarith)
  · intro first hfirst
    have hanti := since_anti h.amounts (show start ≤ first by linarith)
    have hcurrent := h.current
    have hcount := h.count_le
    linarith
  · intro s hs
    rcases List.mem_cons.mp hs with rfl | hold
    · rw [within_eq_since fun g hg => (hbefore g hg).le.trans (le_add_of_nonneg_right hwindow),
        hzero]
      exact hlimit
    · exact h.capped.windows s hold

theorem grant (h : Counted limit window count start last starts log) (hnow : last ≤ now)
    (hrunning : now ≤ start + window) (hamount : 0 ≤ amount) (hroom : count + amount ≤ limit) :
    Counted limit window (count + amount) start now starts (⟨amount, now⟩ :: log) := by
  have hstart : start ≤ now := h.start_le.trans hnow
  have hamounts : ∀ g ∈ (⟨amount, now⟩ : Grant K) :: log, 0 ≤ g.amount := by
    intro g hg
    rcases List.mem_cons.mp hg with rfl | hold
    · exact hamount
    · exact h.amounts g hold
  have hpast : ∀ g ∈ (⟨amount, now⟩ : Grant K) :: log, g.time ≤ now := by
    intro g hg
    rcases List.mem_cons.mp hg with rfl | hold
    · exact le_rfl
    · exact (h.past g hold).trans hnow
  have hcurrent : since start (⟨amount, now⟩ :: log) ≤ count + amount := by
    rw [since_cons_of_le hstart]
    have hbefore := h.current
    linarith
  have hrecent : ∀ first, start - window ≤ first →
      since first (⟨amount, now⟩ :: log) ≤ count + amount + limit := by
    intro first hfirst
    have hbefore := h.recent first hfirst
    rcases le_or_gt first now with hle | hlt
    · rw [since_cons_of_le hle]
      linarith
    · rw [since_cons_of_lt hlt]
      linarith
  refine ⟨add_nonneg h.count_nonneg hamount, hroom, hstart, hrunning, hamounts, hpast, h.older,
    hcurrent, hrecent, ?_, ?_⟩
  · intro s hs
    rcases h.older s hs with rfl | hlt
    · rw [within_eq_since fun g hg => (hpast g hg).trans hrunning]
      exact hcurrent.trans hroom
    · rw [within_cons_of_lt (show s + window < now by linarith)]
      exact h.capped.windows s hs
  · intro first stop hshort
    rcases lt_or_ge stop now with hbefore | hreach
    · rw [within_cons_of_lt hbefore]
      exact h.capped.intervals first stop hshort
    · -- The interval reaches past the last grant, so it starts within a window's length of it.
      rw [within_eq_since fun g hg => (hpast g hg).trans hreach]
      have hsum := hrecent first (by linarith)
      linarith

end Counted

end WhatsappGateway.Lib
