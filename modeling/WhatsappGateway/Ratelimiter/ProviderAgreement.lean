import WhatsappGateway.Ratelimiter.FixedWindow
import WhatsappGateway.Ratelimiter.Redis

/-!
The two providers of the rate limiter side by side: the same calls, at instants that do
not go back, given to the window in memory and to the counter in Redis. Redis also counts
the requests that it denies, so that after a denial a smaller request may be granted by
one and denied by the other.
-/

namespace WhatsappGateway.Ratelimiter

open Lib

/-- What both providers are configured with. -/
structure LimiterConfig where
  limit : Int
  window : Int
  keyPrefix : String
deriving DecidableEq, Repr

namespace LimiterConfig

def memory (cfg : LimiterConfig) : MemoryLimiter := ⟨cfg.limit, cfg.window, cfg.keyPrefix⟩

def redis (cfg : LimiterConfig) : RedisLimiter := ⟨cfg.limit, cfg.window, cfg.keyPrefix⟩

end LimiterConfig

namespace Providers

/-- What each provider remembers, and what the two have decided, newest first. -/
structure State where
  clock : Int
  windows : Windows
  database : Database
  decisions : List (Bool × Bool)

structure Call where
  key : String
  n : Int
  now : Int
deriving DecidableEq, Repr

def init (clock : Int) : State := ⟨clock, fun _ => none, fun _ => none, []⟩

/-- An error of the script comes with a result that does not allow the request. -/
def decision (res : Except String Result) : Bool :=
  match res with
  | .ok res => res.allowed
  | .error _ => false

section Step

variable (cfg : LimiterConfig) (r : Redis)

def step (s : State) (c : Call) : Option State :=
  if s.clock ≤ c.now then
    let (windows, res) := cfg.memory.allowN s.windows c.key c.n c.now c.now
    let (database, answer) := cfg.redis.allowN r s.database c.key c.n c.now
    some ⟨c.now, windows, database, (res.allowed, decision answer) :: s.decisions⟩
  else none

/-- The requests that the current window in memory has granted. -/
def memoryCount (s : State) (c : Call) : Int :=
  (cfg.memory.current (s.windows (cfg.keyPrefix ++ c.key)) c.now).count

/-- The counter in Redis. -/
def redisCount (s : State) (c : Call) : Int := r.count s.database (cfg.keyPrefix ++ c.key) c.now

/-- The window in memory is still running. -/
def MemoryRuns (s : State) (c : Call) : Prop :=
  (s.windows (cfg.keyPrefix ++ c.key)).any (fun entry => c.now ≤ entry.expiresAt) = true

/-- The counter in Redis is still there. -/
def RedisRuns (s : State) (c : Call) : Prop :=
  (r.lookup s.database (cfg.keyPrefix ++ c.key) c.now).isSome = true

/-- The windows of the two providers are both running, or both over; the request is for one
at least; and the counter stays in the range which a number of Lua represents exactly. -/
def InStep (s : State) (c : Call) : Prop :=
  (MemoryRuns cfg s c ↔ RedisRuns cfg r s c) ∧ 1 ≤ c.n ∧
    redisCount cfg r s c + c.n ≤ 9007199254740992

/-- Redis has counted no more than what was granted, or memory has no room either. -/
def SameRoom (s : State) (c : Call) : Prop :=
  redisCount cfg r s c = memoryCount cfg s c ∨ cfg.limit < memoryCount cfg s c + c.n

end Step

instance (cfg : LimiterConfig) (r : Redis) (s : State) (c : Call) :
    Decidable (InStep cfg r s c) :=
  inferInstanceAs (Decidable ((_ = true ↔ _ = true) ∧ _ ∧ _))

instance (cfg : LimiterConfig) (r : Redis) (s : State) (c : Call) :
    Decidable (SameRoom cfg r s c) :=
  inferInstanceAs (Decidable (_ ∨ _))

/-- Every decision was the same. -/
def Agree (s : State) : Prop := ∀ d ∈ s.decisions, d.1 = d.2

/-- Redis has counted what memory has granted, or is over the limit. -/
def Linked (cfg : LimiterConfig) (s : State) : Prop :=
  ∀ key entry counter, s.windows key = some entry → s.database key = some counter →
    1 ≤ counter.value ∧ (counter.value = entry.count ∨ cfg.limit < counter.value)

variable {cfg : LimiterConfig} {r : Redis} {s t : State} {c : Call}

theorem linked_init {clock : Int} : Linked cfg (init clock) := by
  intro key entry counter hentry
  cases hentry

/-- Without a counter, both have counted nothing; else Redis has counted what memory has, or
is over the limit. -/
theorem counts_linked (hlinked : Linked cfg s) (hruns : MemoryRuns cfg s c ↔ RedisRuns cfg r s c) :
    redisCount cfg r s c = 0 ∧ memoryCount cfg s c = 0 ∨
      1 ≤ redisCount cfg r s c ∧
        (redisCount cfg r s c = memoryCount cfg s c ∨ cfg.limit < redisCount cfg r s c) := by
  unfold MemoryRuns RedisRuns at hruns
  unfold redisCount memoryCount Redis.count
  cases hcounter : r.lookup s.database (cfg.keyPrefix ++ c.key) c.now with
  | none =>
    left
    rw [hcounter] at hruns
    refine ⟨rfl, ?_⟩
    cases hentry : s.windows (cfg.keyPrefix ++ c.key) with
    | none => rfl
    | some entry =>
      have hover : entry.expiresAt < c.now := by simpa [hentry] using hruns
      rw [MemoryLimiter.current_of_over hover]
  | some counter =>
    right
    rw [hcounter] at hruns
    obtain ⟨entry, hentry, hrunning⟩ : ∃ entry,
        s.windows (cfg.keyPrefix ++ c.key) = some entry ∧ c.now ≤ entry.expiresAt := by
      simpa [Option.any_eq_true] using hruns
    have hstored := (Option.filter_eq_some_iff.mp hcounter).1
    rw [hentry, MemoryLimiter.current_of_running hrunning]
    exact hlinked _ entry counter hentry hstored

/-- A call to Redis counts the request, whether or not it grants it. -/
theorem redis_allowN (hnumber : ∀ k, 0 ≤ k → k ≤ 9007199254740992 → r.number k = k)
    (hcount : 0 ≤ redisCount cfg r s c) (hn : 1 ≤ c.n)
    (hexact : redisCount cfg r s c + c.n ≤ 9007199254740992) :
    (decision (cfg.redis.allowN r s.database c.key c.n c.now).2 = true ↔
        redisCount cfg r s c + c.n ≤ cfg.limit) ∧
      (∀ counter, (cfg.redis.allowN r s.database c.key c.n c.now).1 (cfg.keyPrefix ++ c.key) =
        some counter → counter.value = redisCount cfg r s c + c.n) ∧
      ∀ key, key ≠ cfg.keyPrefix ++ c.key →
        (cfg.redis.allowN r s.database c.key c.n c.now).1 key = s.database key := by
  have hfits : Redis.fits (redisCount cfg r s c + c.n) := by
    unfold Redis.fits
    omega
  obtain ⟨next, ttlMs, hscript, hvalue, hframe⟩ :=
    Redis.luaScript_of_fits (Duration.milliseconds cfg.window) hfits
  have hcall : (cfg.redis.allowN r s.database c.key c.n c.now).1 = next ∧
      (decision (cfg.redis.allowN r s.database c.key c.n c.now).2 = true ↔
        redisCount cfg r s c + c.n ≤ cfg.limit) := by
    unfold redisCount at *
    simp only [RedisLimiter.allowN, LimiterConfig.redis, hscript, decision,
      hnumber _ (by omega) hexact, true_and]
    exact decide_eq_true_iff
  rw [hcall.1]
  exact ⟨hcall.2, hvalue, hframe⟩

/-- A call to memory counts the request if it grants it. -/
theorem memory_allowN :
    ((cfg.memory.allowN s.windows c.key c.n c.now c.now).2.allowed = true ↔
        memoryCount cfg s c + c.n ≤ cfg.limit) ∧
      (∀ entry, (cfg.memory.allowN s.windows c.key c.n c.now c.now).1 (cfg.keyPrefix ++ c.key) =
        some entry → entry.count =
          if memoryCount cfg s c + c.n ≤ cfg.limit then memoryCount cfg s c + c.n
          else memoryCount cfg s c) ∧
      ∀ key, key ≠ cfg.keyPrefix ++ c.key →
        (cfg.memory.allowN s.windows c.key c.n c.now c.now).1 key = s.windows key := by
  refine ⟨MemoryLimiter.allowN_allowed, ?_⟩
  rcases le_or_gt (memoryCount cfg s c + c.n) cfg.limit with hroom | hfull
  · rw [MemoryLimiter.allowN_granted hroom, if_pos hroom]
    constructor
    · intro entry hentry
      simp only [LimiterConfig.memory, Function.update_self, Option.some.injEq] at hentry
      rw [← hentry]
      rfl
    · intro key hkey
      exact Function.update_of_ne hkey _ _
  · rw [MemoryLimiter.allowN_denied hfull, if_neg (not_le.mpr hfull)]
    constructor
    · intro entry hentry
      simp only [LimiterConfig.memory, Function.update_self, Option.some.injEq] at hentry
      rw [← hentry]
      rfl
    · intro key hkey
      exact Function.update_of_ne hkey _ _

theorem step_eq (hstep : step cfg r s c = some t) :
    t = ⟨c.now, (cfg.memory.allowN s.windows c.key c.n c.now c.now).1,
      (cfg.redis.allowN r s.database c.key c.n c.now).1,
      ((cfg.memory.allowN s.windows c.key c.n c.now c.now).2.allowed,
        decision (cfg.redis.allowN r s.database c.key c.n c.now).2) :: s.decisions⟩ := by
  unfold step at hstep
  split at hstep
  · exact (Option.some.inj hstep).symm
  · cases hstep

/-- One call: the providers stay linked, and decide alike exactly when they have the same
room. -/
theorem step_linked (hnumber : ∀ k, 0 ≤ k → k ≤ 9007199254740992 → r.number k = k)
    (hguard : InStep cfg r s c) (hstep : step cfg r s c = some t) (hlinked : Linked cfg s) :
    Linked cfg t ∧ (Agree t ↔ Agree s ∧ SameRoom cfg r s c) := by
  obtain ⟨hruns, hn, hexact⟩ := hguard
  have hcounts := counts_linked hlinked hruns
  obtain ⟨hmemory, hentry, hwindows⟩ := @memory_allowN cfg s c
  obtain ⟨hredis, hcounter, hdatabase⟩ := redis_allowN hnumber (by omega) hn hexact
  rw [step_eq hstep]
  constructor
  · intro key entry counter hwindow hstored
    by_cases hkey : key = cfg.keyPrefix ++ c.key
    · subst hkey
      rw [hentry entry hwindow, hcounter counter hstored]
      split <;> omega
    · exact hlinked key entry counter ((hwindows key hkey).symm.trans hwindow)
        ((hdatabase key hkey).symm.trans hstored)
  · have hdecisions : (cfg.memory.allowN s.windows c.key c.n c.now c.now).2.allowed =
        decision (cfg.redis.allowN r s.database c.key c.n c.now).2 ↔ SameRoom cfg r s c := by
      rw [Bool.eq_iff_iff, hmemory, hredis]
      unfold SameRoom
      omega
    simp only [Agree, List.forall_mem_cons, hdecisions]
    exact and_comm

/-- While the windows of the two providers run together, their decisions are the same exactly
as long as at each call they have counted the same, or memory has no room for the request
either. -/
theorem providers_agree_iff {clock : Int} {calls : List Call}
    (hnumber : ∀ k, 0 ≤ k → k ≤ 9007199254740992 → r.number k = k)
    (hrun : Run (step cfg r) (InStep cfg r) (init clock) calls s) :
    Agree s ↔ Guarded (step cfg r) (SameRoom cfg r) (init clock) calls := by
  have hsteps := hrun.good_iff linked_init fun _ _ _ => step_linked hnumber
  have hempty : Agree (init clock) := by
    intro d hd
    cases hd
  rw [hsteps]
  exact and_iff_right hempty

/-- A server that counts time in whole milliseconds. -/
def millisecondRedis : Redis where
  expired expiry now := expiry.1 / 1000000 + expiry.2 < now / 1000000
  remaining expiry now := expiry.1 / 1000000 + expiry.2 - now / 1000000
  number n := n

/-- Two requests a minute. -/
def twoAMinute : LimiterConfig := ⟨2, 60 * Duration.second, "whatsapp:gateway:ratelimiter:"⟩

/-- Single requests of two accounts: the third of the first account is denied by both. -/
def singleRequests : List Call :=
  [⟨"628111", 1, 0⟩, ⟨"628222", 1, 1⟩, ⟨"628111", 1, 2⟩, ⟨"628111", 1, 3⟩]

theorem singleRequests_agree :
    Agree (final (step twoAMinute millisecondRedis) (init 0) singleRequests) :=
  (providers_agree_iff (fun _ _ _ => rfl)
    (Run.to_final (by decide +kernel) (by decide +kernel))).mpr (by decide +kernel)

/-- What the documentation says of the server: its numbers are exact up to 2 to the 53, a key is
there for the time of its expiry, and it is gone a millisecond later. -/
structure Documented (r : Redis) : Prop where
  number : ∀ k, 0 ≤ k → k ≤ 9007199254740992 → r.number k = k
  lives : ∀ setAt windowMs now, now < setAt + windowMs * 1000000 →
    r.expired (setAt, windowMs) now = false
  expires : ∀ setAt windowMs now, setAt + (windowMs + 1) * 1000000 ≤ now →
    r.expired (setAt, windowMs) now = true

theorem millisecondRedis_documented : Documented millisecondRedis where
  number _ _ _ := rfl
  lives setAt windowMs now hnow := by
    simp only [millisecondRedis, decide_eq_false_iff_not]
    omega
  expires setAt windowMs now hnow := by
    simp only [millisecondRedis, decide_eq_true_eq]
    omega

/-- The providers take the same decisions on all sequences of calls. -/
def AlwaysAgree : Prop :=
  ∀ cfg r clock calls s, Documented r → (∃ windowMs, cfg.window = windowMs * 1000000) →
    Run (step cfg r) (fun _ c => 1 ≤ c.n) (init clock) calls s → Agree s

/-- After a denied request for two, memory has room for one more, and Redis has not. -/
theorem providers_disagree : ¬ AlwaysAgree := by
  intro hall
  have hagree := hall twoAMinute millisecondRedis 0
    [⟨"628111", 1, 0⟩, ⟨"628111", 2, 1⟩, ⟨"628111", 1, 2⟩] _ millisecondRedis_documented
    ⟨60000, by decide⟩ (Run.to_final (by decide +kernel) (by decide +kernel))
  have hlast := hagree (true, false) (by decide +kernel)
  cases hlast

end Providers

end WhatsappGateway.Ratelimiter
