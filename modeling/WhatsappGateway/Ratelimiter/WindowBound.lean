import WhatsappGateway.Lib.WindowCap
import WhatsappGateway.Ratelimiter.FixedWindow

/-!
What a fixed window limiter grants. The requests are for targets, each of which has a key of
its own, and the clock does not go back. The answers are logged, so that the windows of a target
and what it was granted are read off the log.
-/

namespace WhatsappGateway.Ratelimiter.MemoryLimiter

open Lib Grant

variable {κ : Type}

/-- A call of `AllowN` for a target, with its two readings of the clock. -/
structure Request (κ : Type) where
  target : κ
  n : Int
  now : Int
  later : Int
deriving DecidableEq, Repr

/-- A request that was answered, and whether it has opened a window. -/
structure Answer (κ : Type) where
  target : κ
  n : Int
  now : Int
  opened : Bool
  allowed : Bool
deriving DecidableEq, Repr

structure Served (κ : Type) where
  windows : Windows
  answers : List (Answer κ)

/-- There is no window, or it has ended. -/
def opens (entry : Option MemoryEntry) (now : Int) : Bool :=
  entry.all fun entry => now > entry.expiresAt

namespace Served

def init : Served κ := ⟨MemoryLimiter.init, []⟩

/-- The clock does not go back. -/
def InOrder (s : Served κ) (r : Request κ) : Prop :=
  1 ≤ r.n ∧ r.now ≤ r.later ∧ ∀ c ∈ s.answers, c.now ≤ r.now

instance (s : Served κ) (r : Request κ) : Decidable (s.InOrder r) :=
  inferInstanceAs (Decidable (_ ∧ _ ∧ _))

end Served

/-- The key of each target is its own. -/
def serve (m : MemoryLimiter) (keyOf : κ → String) (s : Served κ) (r : Request κ) :
    Option (Served κ) :=
  let result := m.allowN s.windows (keyOf r.target) r.n r.now r.later
  let opened := opens (s.windows (m.keyPrefix ++ keyOf r.target)) r.now
  some ⟨result.1, ⟨r.target, r.n, r.now, opened, result.2.allowed⟩ :: s.answers⟩

section Log

variable [DecidableEq κ]

/-- The windows of a target, by their starts. -/
def starts (target : κ) (answers : List (Answer κ)) : List ℚ :=
  (answers.filter fun c => c.target = target ∧ c.opened = true).map fun c => (c.now : ℚ)

/-- What a target was granted, and when. -/
def grants (target : κ) (answers : List (Answer κ)) : List (Grant ℚ) :=
  (answers.filter fun c => c.target = target ∧ c.allowed = true).map fun c => ⟨c.n, c.now⟩

/-- A negative limit grants no more than a limit of 0. -/
def cap (m : MemoryLimiter) : ℚ := max 0 m.limit

/-- What a limiter keeps of a target: no window before the first request, and afterwards one that
counts what was granted. -/
structure Windowed (m : MemoryLimiter) (keyOf : κ → String) (target : κ) (s : Served κ) :
    Prop where
  unused : s.windows (m.keyPrefix ++ keyOf target) = none → ∀ c ∈ s.answers, c.target ≠ target
  counted : ∀ entry, s.windows (m.keyPrefix ++ keyOf target) = some entry →
    ∃ c ∈ s.answers, Counted m.cap m.window entry.count (entry.expiresAt - m.window) c.now
      (starts target s.answers) (grants target s.answers)

variable {m : MemoryLimiter} {keyOf : κ → String} {target : κ} {s s' : Served κ} {r : Request κ}
  {answers : List (Answer κ)} {c : Answer κ}

theorem starts_unused (h : ∀ c ∈ answers, c.target ≠ target) : starts target answers = [] := by
  simp only [starts, List.map_eq_nil_iff, List.filter_eq_nil_iff]
  intro c hc
  simp [h c hc]

theorem grants_unused (h : ∀ c ∈ answers, c.target ≠ target) : grants target answers = [] := by
  simp only [grants, List.map_eq_nil_iff, List.filter_eq_nil_iff]
  intro c hc
  simp [h c hc]

theorem starts_cons_self (hself : c.target = target) :
    starts target (c :: answers) =
      if c.opened then (c.now : ℚ) :: starts target answers else starts target answers := by
  cases hopened : c.opened <;> simp [starts, hself, hopened]

theorem starts_cons_other (hother : c.target ≠ target) :
    starts target (c :: answers) = starts target answers := by
  simp [starts, hother]

theorem grants_cons_self (hself : c.target = target) :
    grants target (c :: answers) =
      if c.allowed then ⟨c.n, c.now⟩ :: grants target answers else grants target answers := by
  cases hallowed : c.allowed <;> simp [grants, hself, hallowed]

theorem grants_cons_other (hother : c.target ≠ target) :
    grants target (c :: answers) = grants target answers := by
  simp [grants, hother]

theorem cap_nonneg (m : MemoryLimiter) : 0 ≤ m.cap := le_max_left _ _

theorem windowed_init : Windowed m keyOf target .init where
  unused _ := by simp [Served.init]
  counted _ h := by cases h

/-- The window that a request finds, or opens, counts what was granted before. -/
theorem Windowed.arrived (h : Windowed m keyOf target s) (hwindow : 0 ≤ m.window) {now : Int}
    (hclock : ∀ c ∈ s.answers, c.now ≤ now) :
    Counted m.cap m.window
      (m.current (s.windows (m.keyPrefix ++ keyOf target)) now).count
      ((m.current (s.windows (m.keyPrefix ++ keyOf target)) now).expiresAt - m.window) now
      (if opens (s.windows (m.keyPrefix ++ keyOf target)) now then
        (now : ℚ) :: starts target s.answers else starts target s.answers)
      (grants target s.answers) := by
  have hlength : (0 : ℚ) ≤ m.window := by exact_mod_cast hwindow
  cases hentry : s.windows (m.keyPrefix ++ keyOf target) with
  | none =>
    have hunused := h.unused hentry
    rw [starts_unused hunused, grants_unused hunused]
    simpa [current, opens] using Counted.first_window m.cap_nonneg hlength (now : ℚ)
  | some entry =>
    obtain ⟨c, hc, hcounted⟩ := h.counted entry hentry
    have hlast : (c.now : ℚ) ≤ now := by exact_mod_cast hclock c hc
    rcases le_or_gt now entry.expiresAt with hrunning | hover
    · have hcast : (now : ℚ) ≤ entry.expiresAt := by exact_mod_cast hrunning
      have hdenied := hcounted.deny hlast (by simpa using hcast)
      simpa [current_of_running hrunning, opens, not_lt.mpr hrunning] using hdenied
    · have hcast : (entry.expiresAt : ℚ) < now := by exact_mod_cast hover
      have hover' : (entry.expiresAt : ℚ) - m.window + m.window < now := by simpa using hcast
      have hnew := hcounted.new_window hlength hover'
      simpa [current_of_over hover, opens, hover] using hnew

/-- For a target with a window, the invariant speaks of that window. -/
theorem Windowed.of_entry {entry : MemoryEntry}
    (hentry : s.windows (m.keyPrefix ++ keyOf target) = some entry) (hc : c ∈ s.answers)
    (hcounted : Counted m.cap m.window entry.count (entry.expiresAt - m.window) c.now
      (starts target s.answers) (grants target s.answers)) : Windowed m keyOf target s where
  unused hnone := by
    rw [hentry] at hnone
    cases hnone
  counted entry' hentry' := by
    obtain rfl := Option.some.inj (hentry.symm.trans hentry')
    exact ⟨c, hc, hcounted⟩

/-- After a request for the target its window counts what was granted. -/
theorem Windowed.request (h : Windowed m keyOf r.target s) (hwindow : 0 ≤ m.window)
    (horder : s.InOrder r) (hstep : m.serve keyOf s r = some s') :
    Windowed m keyOf r.target s' := by
  obtain ⟨hn, -, hclock⟩ := horder
  have harrived := h.arrived hwindow hclock
  obtain rfl := Option.some.inj hstep
  rcases le_or_gt ((m.current (s.windows (m.keyPrefix ++ keyOf r.target)) r.now).count + r.n)
    m.limit with hroom | hfull
  · have hallowed : (m.allowN s.windows (keyOf r.target) r.n r.now r.later).2.allowed = true :=
      allowN_allowed.mpr hroom
    have hamount : (0 : ℚ) ≤ r.n := by exact_mod_cast (by omega : 0 ≤ r.n)
    have hcap : ((m.current (s.windows (m.keyPrefix ++ keyOf r.target)) r.now).count : ℚ) + r.n ≤
        m.cap := le_max_of_le_right (by exact_mod_cast hroom)
    have hgranted := harrived.grant le_rfl harrived.running hamount hcap
    rw [hallowed, allowN_granted hroom]
    apply Windowed.of_entry (Function.update_self ..) List.mem_cons_self
    simpa only [starts_cons_self, grants_cons_self, if_true, Int.cast_add] using hgranted
  · have hdenied : (m.allowN s.windows (keyOf r.target) r.n r.now r.later).2.allowed = false := by
      rw [allowN_denied hfull]
    rw [hdenied, allowN_denied hfull]
    apply Windowed.of_entry (Function.update_self ..) List.mem_cons_self
    simpa only [starts_cons_self, grants_cons_self, Bool.false_eq_true, if_false] using harrived

/-- A request for another target leaves the window and the log of this one alone. -/
theorem Windowed.other (h : Windowed m keyOf target s) (hkey : keyOf r.target ≠ keyOf target)
    (hstep : m.serve keyOf s r = some s') : Windowed m keyOf target s' := by
  have htarget : r.target ≠ target := fun heq => hkey (heq ▸ rfl)
  have hsame : (m.allowN s.windows (keyOf r.target) r.n r.now r.later).1
      (m.keyPrefix ++ keyOf target) = s.windows (m.keyPrefix ++ keyOf target) := allowN_frame hkey
  obtain rfl := Option.some.inj hstep
  refine ⟨?_, ?_⟩
  · intro hnone c hc
    replace hnone := hsame.symm.trans hnone
    rcases List.mem_cons.mp hc with rfl | hold
    · exact htarget
    · exact h.unused hnone c hold
  · intro entry hentry
    obtain ⟨c, hc, hcounted⟩ := h.counted entry (hsame.symm.trans hentry)
    refine ⟨c, List.mem_cons_of_mem _ hc, ?_⟩
    rw [starts_cons_other htarget, grants_cons_other htarget]
    exact hcounted

theorem Windowed.step (hkeys : Function.Injective keyOf) (hwindow : 0 ≤ m.window)
    (horder : s.InOrder r) (hstep : m.serve keyOf s r = some s') (h : Windowed m keyOf target s) :
    Windowed m keyOf target s' := by
  by_cases htarget : r.target = target
  · subst htarget
    exact h.request hwindow horder hstep
  · exact h.other (hkeys.ne htarget) hstep

/-- What a target is granted, in each of its windows and in each shorter interval. -/
theorem served_capped (hkeys : Function.Injective keyOf) {requests : List (Request κ)}
    (run : Run (m.serve keyOf) Served.InOrder .init requests s) (target : κ) :
    Capped m.cap m.window (starts target s.answers) (grants target s.answers) := by
  rcases lt_or_ge m.window 0 with hneg | hwindow
  · exact capped_of_neg m.cap_nonneg (by exact_mod_cast hneg) _ _
  · have hwindowed : Windowed m keyOf target s :=
      run.invariant windowed_init fun _ _ _ => Windowed.step hkeys hwindow
    cases hentry : s.windows (m.keyPrefix ++ keyOf target) with
    | none =>
      rw [grants_unused (hwindowed.unused hentry)]
      exact capped_nil m.cap_nonneg _
    | some entry =>
      obtain ⟨c, -, hcounted⟩ := hwindowed.counted entry hentry
      exact hcounted.capped

/-! ### One target at a time -/

/-- An answer depends on the window of its own key only. -/
theorem allowN_local {windows windows' : Windows} {key : String}
    (h : windows' (m.keyPrefix ++ key) = windows (m.keyPrefix ++ key)) (n now later : Int) :
    (m.allowN windows' key n now later).2 = (m.allowN windows key n now later).2 ∧
      (m.allowN windows' key n now later).1 (m.keyPrefix ++ key) =
        (m.allowN windows key n now later).1 (m.keyPrefix ++ key) := by
  simp only [allowN, h]
  split <;> simp

/-- `alone` has seen the requests for the target only, and has answered them alike. -/
structure Alone (m : MemoryLimiter) (keyOf : κ → String) (target : κ) (s alone : Served κ) :
    Prop where
  window : alone.windows (m.keyPrefix ++ keyOf target) = s.windows (m.keyPrefix ++ keyOf target)
  answers : alone.answers = s.answers.filter fun c => c.target = target

variable {alone : Served κ}

theorem Alone.request (h : Alone m keyOf r.target s alone) (horder : s.InOrder r)
    (hstep : m.serve keyOf s r = some s') :
    alone.InOrder r ∧ ∃ alone', m.serve keyOf alone r = some alone' ∧
      Alone m keyOf r.target s' alone' := by
  obtain ⟨hn, hlater, hclock⟩ := horder
  obtain ⟨hresult, hwindow⟩ := allowN_local h.window r.n r.now r.later
  refine ⟨⟨hn, hlater, ?_⟩, _, rfl, ?_⟩
  · intro c hc
    rw [h.answers] at hc
    exact hclock c (List.mem_filter.mp hc).1
  · obtain rfl := Option.some.inj hstep
    refine ⟨hwindow, ?_⟩
    simp [h.answers, h.window, hresult]

theorem Alone.other (h : Alone m keyOf target s alone) (hkey : keyOf r.target ≠ keyOf target)
    (hstep : m.serve keyOf s r = some s') : Alone m keyOf target s' alone := by
  have htarget : r.target ≠ target := fun heq => hkey (heq ▸ rfl)
  obtain rfl := Option.some.inj hstep
  refine ⟨h.window.trans (allowN_frame hkey).symm, ?_⟩
  simp [h.answers, htarget]

/-- The requests for a target are answered as they would be if there were no others. -/
theorem served_alone (hkeys : Function.Injective keyOf) {requests : List (Request κ)}
    (run : Run (m.serve keyOf) Served.InOrder s requests s') (h : Alone m keyOf target s alone) :
    ∃ alone', Run (m.serve keyOf) Served.InOrder alone
      (requests.filter fun r => r.target = target) alone' ∧ Alone m keyOf target s' alone' := by
  induction run generalizing alone with
  | nil s => exact ⟨alone, .nil alone, h⟩
  | @cons s next s' r requests horder hstep _ ih =>
    by_cases htarget : r.target = target
    · subst htarget
      obtain ⟨horder', alone', hstep', hnext⟩ := h.request horder hstep
      obtain ⟨last, hrun, hlast⟩ := ih hnext
      refine ⟨last, ?_, hlast⟩
      rw [List.filter_cons_of_pos (by simp)]
      exact .cons horder' hstep' hrun
    · rw [List.filter_cons_of_neg (by simpa using htarget)]
      exact ih (h.other (hkeys.ne htarget) hstep)

/-- Each target has a cap of its own: its windows and intervals are within the limit, and it is
answered as if there were no other targets. -/
structure CapEach (m : MemoryLimiter) (step : Served κ → Request κ → Option (Served κ))
    (requests : List (Request κ)) (s : Served κ) : Prop where
  capped : ∀ target,
    Capped m.cap m.window (starts target s.answers) (grants target s.answers)
  alone : ∀ target, ∃ alone,
    Run step Served.InOrder .init (requests.filter fun r => r.target = target) alone ∧
      alone.answers = s.answers.filter fun c => c.target = target

theorem served_capEach (hkeys : Function.Injective keyOf) {requests : List (Request κ)}
    (run : Run (m.serve keyOf) Served.InOrder .init requests s) :
    CapEach m (m.serve keyOf) requests s where
  capped := served_capped hkeys run
  alone target := by
    have hinit : Alone m keyOf target .init .init := ⟨rfl, by simp [Served.init]⟩
    obtain ⟨alone, hrun, hlast⟩ := served_alone hkeys run hinit
    exact ⟨alone, hrun, hlast.answers⟩

end Log

end WhatsappGateway.Ratelimiter.MemoryLimiter
