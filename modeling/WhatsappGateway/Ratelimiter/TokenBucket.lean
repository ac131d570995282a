import Mathlib.Tactic.FieldSimp
import WhatsappGateway.Lib.Envelope
import WhatsappGateway.Lib.Run
import WhatsappGateway.Ratelimiter.Limiters

/-!
Runs of a token bucket limiter: calls for any keys at any clock readings, and
resets. The calls are logged, and what a key was granted is read off the log.
-/

namespace WhatsappGateway.Ratelimiter

open Lib

namespace TokenBucketLimiter

/-- Deletes the bucket of a key. -/
def reset (t : TokenBucketLimiter) (buckets : Buckets) (key : String) : Buckets :=
  Function.update buckets (t.keyPrefix ++ key) none

/-- The tokens that a call for `key` at `now` would find. -/
def available (t : TokenBucketLimiter) (buckets : Buckets) (key : String) (now : Int) : ℚ :=
  (t.refill (buckets (t.keyPrefix ++ key)) now).tokens

/-- What a call for `n` tokens asks of the bucket. -/
def need (n : Int) : ℚ := if n ≤ 0 then 1 else n

variable {t : TokenBucketLimiter} {buckets : Buckets} {entry : Option TbEntry} {e : TbEntry}
  {key other : String} {n now later : Int}

theorem need_pos (n : Int) : 0 < need n := by
  unfold need
  split
  · exact one_pos
  · next h => exact_mod_cast not_le.mp h

theorem need_of_one_le (h : 1 ≤ n) : need n = n := by
  have hpos : ¬ n ≤ 0 := by omega
  rw [need, if_neg hpos]

theorem burst_pos (t : TokenBucketLimiter) : 0 < t.burst := one_pos.trans_le t.one_le_burst

/-! ### What one call does -/

theorem refill_none : t.refill none now = ⟨t.burst, now⟩ := rfl

/-- A clock that has not moved on adds nothing. -/
theorem refill_of_le (h : now ≤ e.last) : t.refill (some e) now = e := by
  have hdiff : ((now - e.last : Int) : ℚ) ≤ 0 := by exact_mod_cast sub_nonpos.mpr h
  have helapsed : ¬ 0 < ((now - e.last : Int) : ℚ) / Duration.second := by
    rw [not_lt]
    exact div_nonpos_of_nonpos_of_nonneg hdiff (by norm_num [Duration.second])
  simp only [refill, if_neg helapsed]

theorem refill_of_lt (h : e.last < now) :
    t.refill (some e) now =
      ⟨min t.burst (e.tokens + ((now - e.last : Int) : ℚ) / Duration.second * t.rate), now⟩ := by
  have hdiff : 0 < ((now - e.last : Int) : ℚ) := by exact_mod_cast sub_pos.mpr h
  have helapsed : 0 < ((now - e.last : Int) : ℚ) / Duration.second :=
    div_pos hdiff (by norm_num [Duration.second])
  simp only [refill, if_pos helapsed]

/-- What time adds is not negative. -/
theorem added_nonneg (t : TokenBucketLimiter) (h : now ≤ later) :
    0 ≤ ((later - now : Int) : ℚ) / Duration.second * t.rate := by
  have hdiff : 0 ≤ ((later - now : Int) : ℚ) := by exact_mod_cast sub_nonneg.mpr h
  have hsecond : (0 : ℚ) ≤ Duration.second := by norm_num [Duration.second]
  exact mul_nonneg (div_nonneg hdiff hsecond) t.rate_pos.le

/-- The refilled entry is not behind the clock. -/
theorem le_refill_last : now ≤ (t.refill entry now).last := by
  cases entry with
  | none => exact le_rfl
  | some e =>
    rcases le_or_gt now e.last with hle | hlt
    · rw [refill_of_le hle]
      exact hle
    · rw [refill_of_lt hlt]

theorem allowN_granted (h : need n ≤ t.available buckets key now) :
    (t.allowN buckets key n now).2.allowed = true ∧
      (t.allowN buckets key n now).1 =
        Function.update buckets (t.keyPrefix ++ key)
          (some ⟨t.available buckets key now - need n,
            (t.refill (buckets (t.keyPrefix ++ key)) now).last⟩) := by
  unfold available need at *
  simp only [allowN, if_pos h, and_self]

theorem allowN_denied (h : ¬ need n ≤ t.available buckets key now) :
    (t.allowN buckets key n now).2.allowed = false ∧
      (t.allowN buckets key n now).1 =
        Function.update buckets (t.keyPrefix ++ key)
          (some (t.refill (buckets (t.keyPrefix ++ key)) now)) := by
  unfold available need at *
  simp only [allowN, if_neg h, and_self]

theorem allowN_allowed :
    (t.allowN buckets key n now).2.allowed = true ↔ need n ≤ t.available buckets key now := by
  by_cases h : need n ≤ t.available buckets key now
  · simp [h, (allowN_granted h).1]
  · simp [h, (allowN_denied h).1]

theorem fullKey_inj : t.keyPrefix ++ key = t.keyPrefix ++ other ↔ key = other :=
  String.append_right_inj _

/-- A call touches the bucket of its own key only. -/
theorem allowN_frame (h : key ≠ other) :
    (t.allowN buckets key n now).1 (t.keyPrefix ++ other) = buckets (t.keyPrefix ++ other) := by
  have hne : t.keyPrefix ++ other ≠ t.keyPrefix ++ key := fun heq => h (fullKey_inj.mp heq).symm
  by_cases hallowed : need n ≤ t.available buckets key now
  · rw [(allowN_granted hallowed).2, Function.update_of_ne hne]
  · rw [(allowN_denied hallowed).2, Function.update_of_ne hne]

/-- A granted call takes what it asked for, as a look at the same instant sees it. -/
theorem available_granted (h : (t.allowN buckets key n now).2.allowed = true) :
    t.available (t.allowN buckets key n now).1 key now =
      t.available buckets key now - need n := by
  rw [(allowN_granted (allowN_allowed.mp h)).2]
  unfold available
  rw [Function.update_self, refill_of_le]
  exact le_refill_last

theorem le_refill_tokens (h : e.tokens ≤ t.burst) :
    e.tokens ≤ (t.refill (some e) now).tokens := by
  rcases le_or_gt now e.last with hle | hlt
  · rw [refill_of_le hle]
  · have hadded := added_nonneg t hlt.le
    rw [refill_of_lt hlt]
    exact le_min h (le_add_of_nonneg_right hadded)

/-- A refill in two steps is the refill in one. -/
theorem refill_refill (h : now ≤ later) :
    (t.refill (some (t.refill entry now)) later).tokens = (t.refill entry later).tokens := by
  rcases h.eq_or_lt with rfl | hlater
  · rw [refill_of_le le_refill_last]
  · have hadded := added_nonneg t h
    cases entry with
    | none =>
      rw [refill_none, refill_none, refill_of_lt hlater]
      exact min_eq_left (le_add_of_nonneg_right hadded)
    | some e =>
      rcases le_or_gt now e.last with hle | hlt
      · rw [refill_of_le hle]
      · have hsplit : ((later - e.last : Int) : ℚ) / Duration.second * t.rate =
            ((now - e.last : Int) : ℚ) / Duration.second * t.rate +
              ((later - now : Int) : ℚ) / Duration.second * t.rate := by
          push_cast
          ring
        rw [refill_of_lt hlt, refill_of_lt hlater, refill_of_lt (hlt.trans hlater), hsplit,
          ← add_assoc]
        -- The cap that the first refill applies is applied again by the second.
        rw [← min_add_add_right, ← min_assoc, min_eq_left (le_add_of_nonneg_right hadded)]

/-- A denied call deducts nothing: from then on the bucket is what it would have been. -/
theorem available_denied (h : (t.allowN buckets key n now).2.allowed = false)
    (hlater : now ≤ later) :
    t.available (t.allowN buckets key n now).1 key later = t.available buckets key later := by
  have hshort : ¬ need n ≤ t.available buckets key now := by
    intro hle
    rw [allowN_allowed.mpr hle] at h
    cases h
  rw [(allowN_denied hshort).2, available, Function.update_self, refill_refill hlater, available]

/-! ### Runs -/

/-- A call that was answered, with the reading of the clock that it took. -/
structure Call where
  key : String
  n : Int
  now : Int
  allowed : Bool
deriving DecidableEq, Repr

structure State where
  buckets : Buckets
  calls : List Call

inductive Action where
  | allowN (key : String) (n now : Int)
  | reset (key : String)
deriving DecidableEq, Repr

def init : State := ⟨fun _ => none, []⟩

def step (t : TokenBucketLimiter) (s : State) : Action → Option State
  | .allowN key n now =>
    let (buckets, res) := t.allowN s.buckets key n now
    some ⟨buckets, ⟨key, n, now, res.allowed⟩ :: s.calls⟩
  | .reset key => some { s with buckets := t.reset s.buckets key }

/-- The key is never reset. -/
def NoReset (key : String) (_ : State) (a : Action) : Prop := a ≠ .reset key

/-- The clock never went back between two calls for the key; the log is newest first. -/
def Forward (key : String) (calls : List Call) : Prop :=
  (calls.filter fun c => c.key = key).Pairwise fun later earlier => earlier.now ≤ later.now

instance (key : String) (calls : List Call) : Decidable (Forward key calls) :=
  inferInstanceAs (Decidable (List.Pairwise _ _))

/-- A reading of the clock in seconds. -/
def instant (now : Int) : ℚ := (now : ℚ) / Duration.second

/-- What a key was granted, and when. -/
def grants (key : String) (calls : List Call) : List (Grant ℚ) :=
  (calls.filter fun c => c.key = key ∧ c.allowed = true).map fun c => ⟨need c.n, instant c.now⟩

variable {s s' : State} {a : Action} {as : List Action} {calls : List Call} {c : Call} {b : Bool}

theorem instant_le (h : now ≤ later) : instant now ≤ instant later := by
  have hcast : (now : ℚ) ≤ later := by exact_mod_cast h
  exact div_le_div_of_nonneg_right hcast (by norm_num [Duration.second])

theorem refill_instant (hlast : e.last ≤ now) (hle : e.tokens ≤ t.burst) :
    t.refill (some e) now =
      ⟨min t.burst (e.tokens + (instant now - instant e.last) * t.rate), now⟩ := by
  rcases hlast.eq_or_lt with rfl | hlt
  · rw [refill_of_le le_rfl, sub_self, zero_mul, add_zero, min_eq_right hle]
  · rw [refill_of_lt hlt, instant, instant, ← sub_div]
    push_cast
    rfl

theorem Forward.tail (h : Forward key (c :: calls)) : Forward key calls := by
  unfold Forward at h ⊢
  rw [List.filter_cons] at h
  split at h
  · exact (List.pairwise_cons.mp h).2
  · exact h

theorem Forward.head (h : Forward c.key (c :: calls)) :
    ∀ earlier ∈ calls, earlier.key = c.key → earlier.now ≤ c.now := by
  intro earlier hmem hkey
  unfold Forward at h
  rw [List.filter_cons_of_pos (by simp)] at h
  apply (List.pairwise_cons.mp h).1
  simp [hmem, hkey]

theorem grants_cons_granted (hallowed : c.allowed = true) :
    grants c.key (c :: calls) = ⟨need c.n, instant c.now⟩ :: grants c.key calls := by
  simp [grants, hallowed]

theorem grants_cons_denied (hdenied : c.allowed = false) :
    grants key (c :: calls) = grants key calls := by
  simp [grants, hdenied]

theorem grants_cons_other (hother : c.key ≠ key) :
    grants key (c :: calls) = grants key calls := by
  simp [grants, hother]

theorem grants_unused (h : ∀ c ∈ calls, c.key ≠ key) : grants key calls = [] := by
  simp only [grants, List.map_eq_nil_iff, List.filter_eq_nil_iff]
  intro c hc
  simp [h c hc]

/-- What the limiter keeps of a key that is never reset. -/
structure Metered (t : TokenBucketLimiter) (key : String) (s : State) : Prop where
  bounded : ∀ e, s.buckets (t.keyPrefix ++ key) = some e → 0 ≤ e.tokens ∧ e.tokens ≤ t.burst
  unused : s.buckets (t.keyPrefix ++ key) = none → ∀ c ∈ s.calls, c.key ≠ key
  last : ∀ e, s.buckets (t.keyPrefix ++ key) = some e → ∃ c ∈ s.calls, c.key = key ∧ c.now = e.last
  backed : Forward key s.calls → ∀ e, s.buckets (t.keyPrefix ++ key) = some e →
    Backed t.burst t.rate e.tokens (instant e.last) (grants key s.calls)

theorem metered_init : Metered t key init where
  bounded _ h := by cases h
  unused _ := by simp [init]
  last _ h := by cases h
  backed _ _ h := by cases h

/-- The entry that a call refills is in bounds, and dates from a call for its key. -/
theorem Metered.refilled (h : Metered t key s) (now : Int) :
    0 ≤ (t.refill (s.buckets (t.keyPrefix ++ key)) now).tokens ∧
      (t.refill (s.buckets (t.keyPrefix ++ key)) now).tokens ≤ t.burst ∧
      ((t.refill (s.buckets (t.keyPrefix ++ key)) now).last = now ∨
        ∃ c ∈ s.calls, c.key = key ∧
          c.now = (t.refill (s.buckets (t.keyPrefix ++ key)) now).last) := by
  cases hentry : s.buckets (t.keyPrefix ++ key) with
  | none => exact ⟨t.burst_pos.le, le_rfl, Or.inl rfl⟩
  | some e =>
    obtain ⟨hlow, hhigh⟩ := h.bounded e hentry
    have hlow' : 0 ≤ (t.refill (some e) now).tokens := hlow.trans (le_refill_tokens hhigh)
    rcases le_or_gt now e.last with hle | hlt
    · rw [refill_of_le hle]
      exact ⟨hlow, hhigh, Or.inr (h.last e hentry)⟩
    · rw [refill_of_lt hlt] at hlow' ⊢
      exact ⟨hlow', min_le_left _ _, Or.inl rfl⟩

/-- With a clock that does not go back, the refilled entry backs what was granted before. -/
theorem Metered.refilled_backed (h : Metered t key s)
    (hforward : Forward key (⟨key, n, now, b⟩ :: s.calls)) :
    (t.refill (s.buckets (t.keyPrefix ++ key)) now).last = now ∧
      Backed t.burst t.rate (t.refill (s.buckets (t.keyPrefix ++ key)) now).tokens (instant now)
        (grants key s.calls) := by
  cases hentry : s.buckets (t.keyPrefix ++ key) with
  | none =>
    rw [refill_none, grants_unused (h.unused hentry)]
    exact ⟨rfl, Backed.full t.burst_pos.le t.rate_pos.le _⟩
  | some e =>
    obtain ⟨c, hmem, hkey, hlast⟩ := h.last e hentry
    have hnow : e.last ≤ now := by
      rw [← hlast]
      exact hforward.head c hmem hkey
    rw [refill_instant hnow (h.bounded e hentry).2]
    exact ⟨rfl, (h.backed hforward.tail e hentry).refill t.rate_pos.le (instant_le hnow)⟩

/-- A step that leaves the bucket of the key alone, and logs no call for it. -/
theorem Metered.frame (h : Metered t key s)
    (hbucket : s'.buckets (t.keyPrefix ++ key) = s.buckets (t.keyPrefix ++ key))
    (hcalls : s'.calls = s.calls ∨ ∃ c, c.key ≠ key ∧ s'.calls = c :: s.calls) :
    Metered t key s' := by
  have hgrants : grants key s'.calls = grants key s.calls := by
    rcases hcalls with heq | ⟨c, hkey, heq⟩
    · rw [heq]
    · rw [heq, grants_cons_other hkey]
  have hforward : Forward key s'.calls → Forward key s.calls := by
    rcases hcalls with heq | ⟨c, hkey, heq⟩
    · rw [heq]
      exact id
    · rw [heq]
      exact Forward.tail
  have hmem : ∀ c, c.key = key → (c ∈ s'.calls ↔ c ∈ s.calls) := by
    intro c hkey
    rcases hcalls with heq | ⟨other, hother, heq⟩
    · rw [heq]
    · rw [heq, List.mem_cons]
      constructor
      · rintro (rfl | hc)
        · exact absurd hkey hother
        · exact hc
      · exact Or.inr
  refine ⟨?_, ?_, ?_, ?_⟩
  · rw [hbucket]
    exact h.bounded
  · rw [hbucket]
    intro hnone c hc hkey
    exact h.unused hnone c ((hmem c hkey).mp hc) hkey
  · rw [hbucket]
    intro e he
    obtain ⟨c, hc, hkey, hlast⟩ := h.last e he
    exact ⟨c, (hmem c hkey).mpr hc, hkey, hlast⟩
  · rw [hbucket, hgrants]
    exact fun hclock => h.backed (hforward hclock)

/-- For a key with an entry, the invariant speaks of that entry. -/
theorem Metered.of_entry (hentry : s.buckets (t.keyPrefix ++ key) = some e)
    (hlow : 0 ≤ e.tokens) (hhigh : e.tokens ≤ t.burst)
    (hlast : ∃ c ∈ s.calls, c.key = key ∧ c.now = e.last)
    (hbacked : Forward key s.calls →
      Backed t.burst t.rate e.tokens (instant e.last) (grants key s.calls)) :
    Metered t key s := by
  have honly : ∀ e', s.buckets (t.keyPrefix ++ key) = some e' → e' = e := by
    intro e' he
    exact Option.some.inj (he.symm.trans hentry)
  refine ⟨?_, ?_, ?_, ?_⟩
  · intro e' he
    rw [honly e' he]
    exact ⟨hlow, hhigh⟩
  · intro hnone
    rw [hentry] at hnone
    cases hnone
  · intro e' he
    rw [honly e' he]
    exact hlast
  · intro hforward e' he
    rw [honly e' he]
    exact hbacked hforward

/-- A call for the key leaves what it refilled, less what it was granted. -/
theorem Metered.call (h : Metered t key s) (n now : Int) :
    Metered t key ⟨(t.allowN s.buckets key n now).1,
      ⟨key, n, now, (t.allowN s.buckets key n now).2.allowed⟩ :: s.calls⟩ := by
  obtain ⟨hlow, hhigh, hlast⟩ := h.refilled now
  have hdated : ∀ allowed, ∃ c ∈ (⟨key, n, now, allowed⟩ : Call) :: s.calls, c.key = key ∧
      c.now = (t.refill (s.buckets (t.keyPrefix ++ key)) now).last := by
    intro allowed
    rcases hlast with hnow | ⟨c, hc, hcall⟩
    · exact ⟨_, List.mem_cons_self, rfl, hnow.symm⟩
    · exact ⟨c, List.mem_cons_of_mem _ hc, hcall⟩
  by_cases hallowed : need n ≤ t.available s.buckets key now
  · obtain ⟨hres, hbuckets⟩ := allowN_granted hallowed
    rw [hres, hbuckets]
    have hnonneg := sub_nonneg.mpr hallowed
    have hbound := (sub_le_self _ (need_pos n).le).trans hhigh
    apply Metered.of_entry (Function.update_self ..) hnonneg hbound (hdated true)
    intro hforward
    obtain ⟨hnow, hbacked⟩ := h.refilled_backed hforward
    have hspent := hbacked.spend t.rate_pos.le (need_pos n).le hallowed
    rw [hnow, @grants_cons_granted s.calls ⟨key, n, now, true⟩ rfl]
    exact hspent
  · obtain ⟨hres, hbuckets⟩ := allowN_denied hallowed
    rw [hres, hbuckets]
    apply Metered.of_entry (Function.update_self ..) hlow hhigh (hdated false)
    intro hforward
    obtain ⟨hnow, hbacked⟩ := h.refilled_backed hforward
    rw [hnow, @grants_cons_denied key s.calls ⟨key, n, now, false⟩ rfl]
    exact hbacked

theorem step_metered (hguard : NoReset key s a) (hstep : t.step s a = some s')
    (h : Metered t key s) : Metered t key s' := by
  cases a with
  | allowN k n now =>
    obtain rfl := Option.some.inj hstep
    by_cases hkey : k = key
    · subst hkey
      exact h.call n now
    · exact h.frame (allowN_frame hkey) (Or.inr ⟨_, hkey, rfl⟩)
  | reset k =>
    obtain rfl := Option.some.inj hstep
    have hne : t.keyPrefix ++ key ≠ t.keyPrefix ++ k := by
      intro heq
      obtain rfl := fullKey_inj.mp heq
      exact hguard rfl
    exact h.frame (Function.update_of_ne hne _ _) (Or.inl rfl)

theorem run_metered (hrun : Run t.step (NoReset key) init as s) : Metered t key s :=
  hrun.invariant metered_init fun _ _ _ => step_metered

/-- For a key that is never reset: the stored tokens stay between none and the burst; a denied
call lowers neither the stored tokens nor what any later call finds; and with a clock that does
not go back, what is granted in any closed interval is within the burst and the rate. -/
theorem token_bucket_envelope (hrun : Run t.step (NoReset key) init as s) :
    (∀ e, s.buckets (t.keyPrefix ++ key) = some e → 0 ≤ e.tokens ∧ e.tokens ≤ t.burst) ∧
    (∀ n now, (t.allowN s.buckets key n now).2.allowed = false →
      (∀ e, s.buckets (t.keyPrefix ++ key) = some e →
        ∃ left, (t.allowN s.buckets key n now).1 (t.keyPrefix ++ key) = some left ∧
          e.tokens ≤ left.tokens) ∧
      ∀ later, now ≤ later →
        t.available (t.allowN s.buckets key n now).1 key later =
          t.available s.buckets key later) ∧
    (Forward key s.calls → Envelope t.burst t.rate (grants key s.calls)) := by
  have hmetered := run_metered hrun
  refine ⟨hmetered.bounded, ?_, ?_⟩
  · intro n now hdenied
    refine ⟨?_, fun later hlater => available_denied hdenied hlater⟩
    intro e hentry
    have hshort : ¬ need n ≤ t.available s.buckets key now := by
      intro hle
      rw [allowN_allowed.mpr hle] at hdenied
      cases hdenied
    rw [(allowN_denied hshort).2, hentry, Function.update_self]
    exact ⟨_, rfl, le_refill_tokens (hmetered.bounded e hentry).2⟩
  · intro hforward
    cases hentry : s.buckets (t.keyPrefix ++ key) with
    | none =>
      rw [grants_unused (hmetered.unused hentry)]
      exact (Backed.full t.burst_pos.le t.rate_pos.le 0).envelope
    | some e => exact (hmetered.backed hforward e hentry).envelope

/-- Two calls for `628111` and one for another account, on a bucket of 20 tokens, 10 a second. -/
theorem token_bucket_envelope_two_calls :
    Envelope (newTokenBucketLimiter ⟨10, 20, "acct:"⟩).burst
      (newTokenBucketLimiter ⟨10, 20, "acct:"⟩).rate
      (grants "628111" (final (newTokenBucketLimiter ⟨10, 20, "acct:"⟩).step init
        [.allowN "628111" 15 0, .allowN "628222" 1 500000000, .reset "628222",
          .allowN "628111" 8 1000000000]).calls) :=
  (token_bucket_envelope
    (Run.to_final rfl (by refine ⟨?_, ?_⟩ <;> simp [Guarded, step, NoReset]))).2.2 (by decide)

end TokenBucketLimiter

end WhatsappGateway.Ratelimiter
