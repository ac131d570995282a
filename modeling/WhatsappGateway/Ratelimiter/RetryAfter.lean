import Mathlib.Data.Rat.Floor
import WhatsappGateway.Lib.Retry
import WhatsappGateway.Ratelimiter.FixedWindow
import WhatsappGateway.Ratelimiter.TokenBucket

/-!
What `RetryAfter` of a denied request is worth. The token bucket reports the time until
its bucket holds the tokens, cut to whole nanoseconds. The fixed window reports the end
of the window, at which instant the window still counts.
-/

namespace WhatsappGateway.Ratelimiter

open Lib

theorem truncate_of_nonneg {q : ℚ} (h : 0 ≤ q) : truncate q = ⌊q⌋ := by
  rw [truncate, Int.tdiv_eq_ediv_of_nonneg (Rat.num_nonneg.mpr h)]
  exact Rat.floor_def'.symm

/-- Truncation keeps a time that is not negative exactly when the time is whole. -/
theorem le_truncate_iff {q : ℚ} (h : 0 ≤ q) : q ≤ truncate q ↔ q.den = 1 := by
  rw [truncate_of_nonneg h, Rat.den_eq_one_iff]
  constructor
  · intro hle
    have hfloor : q = ⌊q⌋ := le_antisymm hle (Int.floor_le q)
    rw [hfloor, Rat.num_intCast]
  · intro hwhole
    rw [← hwhole, Int.floor_intCast]

namespace TokenBucketLimiter

variable {t : TokenBucketLimiter} {s : State} {buckets : Buckets} {key : String}
  {n now later : Int}

/-- The step makes no request for the key. -/
def Quiet (key : String) (_ : State) : Action → Prop
  | .allowN k _ _ => k ≠ key
  | .reset _ => True

instance (key : String) (s : State) : ∀ a, Decidable (Quiet key s a)
  | .allowN k _ _ => inferInstanceAs (Decidable (k ≠ key))
  | .reset _ => inferInstanceAs (Decidable True)

/-- The time, in nanoseconds, until the bucket holds the tokens that the request is short of. -/
def wait (t : TokenBucketLimiter) (buckets : Buckets) (key : String) (n now : Int) : ℚ :=
  (need n - t.available buckets key now) / t.rate * Duration.second

/-- The clock has not gone back behind the last refill of the bucket. -/
def InStep (t : TokenBucketLimiter) (buckets : Buckets) (key : String) (now : Int) : Prop :=
  ∀ e, buckets (t.keyPrefix ++ key) = some e → e.last ≤ now

theorem retryAfter_denied (h : ¬ need n ≤ t.available buckets key now) :
    (t.allowN buckets key n now).2.retryAfter = truncate (t.wait buckets key n now) := by
  unfold wait available need at *
  simp only [allowN, if_neg h]

theorem wait_pos (h : ¬ need n ≤ t.available buckets key now) :
    0 < t.wait buckets key n now := by
  have hshort : 0 < need n - t.available buckets key now := sub_pos.mpr (not_le.mp h)
  have hsecond : (0 : ℚ) < Duration.second := by norm_num [Duration.second]
  exact mul_pos (div_pos hshort t.rate_pos) hsecond

/-- A refilled bucket has what is needed once the wait is over. -/
theorem need_le_refill {e : TbEntry} (hneed : need n ≤ t.burst) (hshort : e.tokens < need n) :
    need n ≤ (t.refill (some e) later).tokens ↔
      (need n - e.tokens) / t.rate * Duration.second ≤ ((later - e.last : Int) : ℚ) := by
  have hsecond : (0 : ℚ) < Duration.second := by norm_num [Duration.second]
  have hwait : 0 < (need n - e.tokens) / t.rate * Duration.second :=
    mul_pos (div_pos (sub_pos.mpr hshort) t.rate_pos) hsecond
  rcases le_or_gt later e.last with hle | hlt
  · rw [refill_of_le hle]
    have hdiff : ((later - e.last : Int) : ℚ) ≤ 0 := by exact_mod_cast sub_nonpos.mpr hle
    constructor
    · intro henough
      exact absurd henough (not_le.mpr hshort)
    · intro hover
      exact absurd (hover.trans hdiff) (not_le.mpr hwait)
  · rw [refill_of_lt hlt]
    simp only [le_min_iff, hneed, true_and]
    rw [← sub_le_iff_le_add', ← div_le_iff₀ t.rate_pos, le_div_iff₀ hsecond]

/-- The same request after a denied one, with nothing in between. -/
theorem granted_after (hneed : need n ≤ t.burst) (hdenied : ¬ need n ≤ t.available buckets key now) :
    (t.allowN (t.allowN buckets key n now).1 key n later).2.allowed = true ↔
      t.wait buckets key n now ≤
        ((later - (t.refill (buckets (t.keyPrefix ++ key)) now).last : Int) : ℚ) := by
  rw [allowN_allowed, (allowN_denied hdenied).2, available, Function.update_self]
  exact need_le_refill hneed (not_le.mp hdenied)

/-- A denied request finds a bucket, and its last refill is now unless the clock went back. -/
theorem refill_last_eq_iff (hneed : need n ≤ t.burst)
    (hdenied : ¬ need n ≤ t.available buckets key now) :
    (t.refill (buckets (t.keyPrefix ++ key)) now).last = now ↔ t.InStep buckets key now := by
  cases hentry : buckets (t.keyPrefix ++ key) with
  | none =>
    rw [available, hentry, refill_none] at hdenied
    exact absurd hneed hdenied
  | some e =>
    simp only [InStep, hentry, Option.some.injEq, forall_eq']
    rcases le_or_gt now e.last with hle | hlt
    · rw [refill_of_le hle]
      exact ⟨le_of_eq, fun hge => le_antisymm hge hle⟩
    · rw [refill_of_lt hlt]
      exact ⟨fun _ => hlt.le, fun _ => rfl⟩

/-- Once a request is denied, making it again is granted from `now + RetryAfter` on. -/
def HonestRetry (t : TokenBucketLimiter) (s : State) (key : String) (n now : Int) : Prop :=
  Honest t.step (Quiet key)
    (fun s later => (t.allowN s.buckets key n later).2.allowed = true)
    ⟨(t.allowN s.buckets key n now).1, ⟨key, n, now, false⟩ :: s.calls⟩
    (now + (t.allowN s.buckets key n now).2.retryAfter)

/-- A reset fills the bucket, and requests for other keys leave it alone. -/
theorem quiet_keeps {s s' : State} {a : Action} (hneed : need n ≤ t.burst)
    (hquiet : Quiet key s a) (hstep : t.step s a = some s')
    (hgranted : (t.allowN s.buckets key n later).2.allowed = true) :
    (t.allowN s'.buckets key n later).2.allowed = true := by
  rw [allowN_allowed, available] at hgranted ⊢
  cases a with
  | allowN k m at_ =>
    have hnext := Option.some.inj hstep
    have hbucket : s'.buckets (t.keyPrefix ++ key) = s.buckets (t.keyPrefix ++ key) := by
      rw [← hnext]
      exact allowN_frame hquiet
    rw [hbucket]
    exact hgranted
  | reset k =>
    obtain rfl := Option.some.inj hstep
    by_cases hkey : k = key
    · subst hkey
      simp only [reset, Function.update_self]
      exact hneed
    · have hne : t.keyPrefix ++ key ≠ t.keyPrefix ++ k := fun heq => hkey (fullKey_inj.mp heq).symm
      simp only [reset, Function.update_of_ne hne]
      exact hgranted

theorem honestRetry_iff (hneed : need n ≤ t.burst)
    (hdenied : (t.allowN s.buckets key n now).2.allowed = false) :
    t.HonestRetry s key n now ↔
      (t.wait s.buckets key n now).den = 1 ∧ t.InStep s.buckets key now := by
  have hshort : ¬ need n ≤ t.available s.buckets key now := by
    rw [← allowN_allowed, hdenied]
    exact Bool.false_ne_true
  have hwait := (wait_pos hshort).le
  have hkeep : ∀ (s : State) a (s' : State) later, Quiet key s a → t.step s a = some s' →
      (t.allowN s.buckets key n later).2.allowed = true →
      (t.allowN s'.buckets key n later).2.allowed = true :=
    fun _ _ _ _ => quiet_keeps hneed
  rw [HonestRetry, honest_iff hkeep, retryAfter_denied hshort, ← le_truncate_iff hwait,
    ← refill_last_eq_iff hneed hshort]
  simp only [granted_after hneed hshort]
  generalize t.wait s.buckets key n now = wait at *
  have hlast : now ≤ (t.refill (s.buckets (t.keyPrefix ++ key)) now).last := le_refill_last
  generalize (t.refill (s.buckets (t.keyPrefix ++ key)) now).last = last at *
  have hfloor : ((truncate wait : Int) : ℚ) ≤ wait := by
    rw [truncate_of_nonneg hwait]
    exact Int.floor_le wait
  constructor
  · intro hgranted
    have hdue := hgranted (now + truncate wait) le_rfl
    -- the reported time cannot make up for a clock that is behind
    have hbehind : ((now + truncate wait - last : Int) : ℚ) ≤ truncate wait := by
      exact_mod_cast (by omega : now + truncate wait - last ≤ truncate wait)
    have hwhole : wait ≤ truncate wait := hdue.trans hbehind
    have hreach : truncate wait ≤ now + truncate wait - last := by
      exact_mod_cast hfloor.trans hdue
    exact ⟨hwhole, by omega⟩
  · rintro ⟨hwhole, rfl⟩ later hlater
    have hreach : truncate wait ≤ later - last := by omega
    exact hwhole.trans (by exact_mod_cast hreach)

/-- The hint of every denial is honest, in every reachable state. -/
def AlwaysHonest : Prop :=
  ∀ (t : TokenBucketLimiter) as s key (n now : Int), Run t.step (fun _ _ => True) init as s →
    1 ≤ n → n ≤ t.burst → (t.allowN s.buckets key n now).2.allowed = false →
    t.HonestRetry s key n now

end TokenBucketLimiter

namespace MemoryLimiter

variable {m : MemoryLimiter} {windows windows' : Windows} {key : String} {n now later retried : Int}

/-- The step makes no request for the key. -/
def Quiet (key : String) (_ : Windows) : Action → Prop
  | .allowN k _ _ _ => k ≠ key
  | .reset _ => True

/-- The window of the key has ended. -/
def Over (m : MemoryLimiter) (windows : Windows) (key : String) (now : Int) : Prop :=
  ∀ entry, windows (m.keyPrefix ++ key) = some entry → entry.expiresAt < now

/-- The request is granted at the instant `retried`, whenever the clock is read again. -/
def Grants (m : MemoryLimiter) (key : String) (n : Int) (windows : Windows) (retried : Int) :
    Prop :=
  ∀ later, retried ≤ later → (m.allowN windows key n retried later).2.allowed = true

theorem grants_iff :
    m.Grants key n windows retried ↔
      (m.current (windows (m.keyPrefix ++ key)) retried).count + n ≤ m.limit := by
  simp only [Grants, allowN_allowed]
  exact ⟨fun h => h retried le_rfl, fun h _ _ => h⟩

/-- Once a request is denied, making it again is granted from `now + RetryAfter` on, and
after the denial has been reported. -/
def HonestRetry (m : MemoryLimiter) (windows : Windows) (key : String) (n now later : Int) :
    Prop :=
  Honest m.step (Quiet key) (m.Grants key n) (m.allowN windows key n now later).1
    (max (now + (m.allowN windows key n now later).2.retryAfter) later)

/-- A reset removes the window, and requests for other keys leave it alone. -/
theorem quiet_keeps {a : Action} (hlimit : n ≤ m.limit) (hquiet : Quiet key windows a)
    (hstep : m.step windows a = some windows') (hgranted : m.Grants key n windows retried) :
    m.Grants key n windows' retried := by
  rw [grants_iff] at hgranted ⊢
  cases a with
  | allowN k j at_ later =>
    simp only [step] at hstep
    split at hstep
    · obtain rfl := Option.some.inj hstep
      rw [allowN_frame hquiet]
      exact hgranted
    · cases hstep
  | reset k =>
    obtain rfl := Option.some.inj hstep
    by_cases hkey : k = key
    · subst hkey
      rw [reset_self, current_none]
      simpa using hlimit
    · rw [reset_frame hkey]
      exact hgranted

/-- A denied request finds a running window, which has no room for it. -/
theorem denied_running (hlimit : n ≤ m.limit)
    (hdenied : (m.allowN windows key n now later).2.allowed = false) :
    ∃ entry, windows (m.keyPrefix ++ key) = some entry ∧ now ≤ entry.expiresAt ∧
      m.limit < entry.count + n := by
  have hfull : m.limit < (m.current (windows (m.keyPrefix ++ key)) now).count + n := by
    rw [← not_le, ← allowN_allowed, hdenied]
    exact Bool.false_ne_true
  cases hentry : windows (m.keyPrefix ++ key) with
  | none =>
    rw [hentry, current_none] at hfull
    simp only [zero_add] at hfull
    omega
  | some entry =>
    rw [hentry] at hfull
    rcases le_or_gt now entry.expiresAt with hrunning | hover
    · rw [current_of_running hrunning] at hfull
      exact ⟨entry, rfl, hrunning, hfull⟩
    · rw [current_of_over hover] at hfull
      simp only [zero_add] at hfull
      omega

/-- The window that has no room still counts at the instant at which it ends. -/
theorem grants_after {entry : MemoryEntry} (hlimit : n ≤ m.limit)
    (hfull : m.limit < entry.count + n)
    (hentry : windows (m.keyPrefix ++ key) = some entry) :
    m.Grants key n windows retried ↔ entry.expiresAt < retried := by
  rw [grants_iff, hentry]
  rcases le_or_gt retried entry.expiresAt with hrunning | hover
  · rw [current_of_running hrunning]
    omega
  · rw [current_of_over hover]
    simp only [zero_add]
    omega

theorem honestRetry_iff (hclock : now ≤ later) (hlimit : n ≤ m.limit)
    (hdenied : (m.allowN windows key n now later).2.allowed = false) :
    m.HonestRetry windows key n now later ↔ m.Over windows key later := by
  obtain ⟨entry, hentry, hrunning, hfull⟩ := denied_running hlimit hdenied
  have hcurrent : m.current (windows (m.keyPrefix ++ key)) now = entry := by
    rw [hentry, current_of_running hrunning]
  have hdeny : m.allowN windows key n now later =
      (Function.update windows (m.keyPrefix ++ key) (some entry),
        { allowed := false
          remaining := m.limit - entry.count
          limit := m.limit
          retryAfter := entry.expiresAt - later
          resetAfter := entry.expiresAt - later }) := by
    rw [allowN_denied (hcurrent ▸ hfull), hcurrent]
  have hkeep : ∀ windows a windows' retried, Quiet key windows a →
      m.step windows a = some windows' → m.Grants key n windows retried →
      m.Grants key n windows' retried :=
    fun _ _ _ _ => quiet_keeps hlimit
  rw [HonestRetry, honest_iff hkeep, hdeny]
  simp only [grants_after hlimit hfull (Function.update_self ..), Over, hentry,
    Option.some.injEq, forall_eq']
  constructor
  · intro hgranted
    have hdue := hgranted _ le_rfl
    omega
  · intro hover retried hretried
    omega

/-- The hint of every denial is honest, in every reachable state. -/
def AlwaysHonest : Prop :=
  ∀ (m : MemoryLimiter) as windows key n now later, Run m.step (fun _ _ => True) init as windows →
    now ≤ later → 1 ≤ n → n ≤ m.limit →
    (m.allowN windows key n now later).2.allowed = false →
    m.HonestRetry windows key n now later

end MemoryLimiter

/-- Three tokens a second, one at a time: a token takes a third of a second. -/
def thirds : TokenBucketLimiter := newTokenBucketLimiter ⟨3, 1, "acct:"⟩

/-- One request a minute. -/
def oneAMinute : MemoryLimiter := ⟨1, 60 * Duration.second, "rcpt:"⟩

end WhatsappGateway.Ratelimiter
