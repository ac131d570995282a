import WhatsappGateway.Lib.Loop
import WhatsappGateway.Ratelimiter.Pacer
import WhatsappGateway.Ratelimiter.RetryAfter

/-!
One call of `Wait` in pace mode by itself: nobody else takes tokens of the account, and the
clock moves on by what the call sleeps, and by a nanosecond in a sleep of no length. The loop
then ends, and the call is cleared exactly when the bucket holds the tokens by the deadline.
-/

namespace WhatsappGateway.Ratelimiter

open Lib

namespace TokenBucketLimiter

variable {t : TokenBucketLimiter} {buckets : Buckets} {entry : Option TbEntry} {key : String}
  {n now later : Int}

/-- The time, in nanoseconds, until the bucket holds what a request needs. A bucket that is ahead
of the clock is not refilled before the clock has caught up. -/
def refillTime (t : TokenBucketLimiter) (buckets : Buckets) (key : String) (n now : Int) : ℚ :=
  if need n ≤ t.available buckets key now then 0
  else t.wait buckets key n now +
    ((t.refill (buckets (t.keyPrefix ++ key)) now).last - now : Int)

theorem available_refill (h : now ≤ later) :
    t.available buckets key later =
      (t.refill (some (t.refill (buckets (t.keyPrefix ++ key)) now)) later).tokens :=
  (refill_refill h).symm

/-- What a bucket holds, it still holds later. -/
theorem available_mono (hneed : need n ≤ t.burst) (h : now ≤ later)
    (hnow : need n ≤ t.available buckets key now) : need n ≤ t.available buckets key later := by
  rw [available_refill h]
  generalize hentry : t.refill (buckets (t.keyPrefix ++ key)) now = e
  rw [available, hentry] at hnow
  rcases le_or_gt later e.last with hle | hlt
  · rw [refill_of_le hle]
    exact hnow
  · rw [refill_of_lt hlt]
    exact le_min hneed (hnow.trans (le_add_of_nonneg_right (added_nonneg t hlt.le)))

/-- The tokens are there by an instant exactly when the refill, in whole nanoseconds, is over. -/
theorem refillTime_le_iff (hneed : need n ≤ t.burst) (h : now ≤ later) :
    ⌈t.refillTime buckets key n now⌉ ≤ later - now ↔
      need n ≤ t.available buckets key later := by
  rw [Int.ceil_le, refillTime]
  split
  next hnow =>
    have hpast : (0 : ℚ) ≤ (later - now : Int) := by exact_mod_cast sub_nonneg.mpr h
    exact ⟨fun _ => available_mono hneed h hnow, fun _ => hpast⟩
  next hshort =>
    rw [available_refill h, need_le_refill hneed (not_le.mp hshort), wait, available]
    push_cast
    constructor
    · intro hle
      linarith
    · intro hle
      linarith

end TokenBucketLimiter

/-- A call of `Wait` with its clock, and the time it has slept. -/
structure Waiting where
  limiters : Limiters
  phase : Phase
  now : Int
  slept : Int

namespace Pacer

variable {p : Pacer} {phone recipient : String} {n : Int} {banUntil : Option Int}
  {draw : Waiting → Int}

/-- The step that a call takes next, with the draws of its jitter. -/
def nextStep (banUntil : Option Int) (draw : Waiting → Int) (s : Waiting) : Option WaitStep :=
  match s.phase with
  | .entered => some (.checkBan banUntil s.now)
  | .gated => some (.count s.now s.now)
  | .counted => some (.setDeadline s.now)
  | .looping _ => some (.allow s.now)
  | .denied _ _ => some (.measure s.now (draw s))
  | .sleeping _ _ => some (.wake none)
  | .done _ => none

/-- What the clock moves on by in a step: a sleep of `d` takes `max d 1`. -/
def rest : Phase → Int
  | .sleeping _ wait => max wait 1
  | _ => 0

/-- The call takes its next step. -/
def tick (p : Pacer) (phone recipient : String) (n : Int) (banUntil : Option Int)
    (draw : Waiting → Int) (s : Waiting) : Option Waiting :=
  (nextStep banUntil draw s).bind fun next =>
    (p.step phone recipient n s.limiters s.phase next).map fun result =>
      ⟨result.1, result.2, s.now + rest s.phase, s.slept + rest s.phase⟩

/-! ### The steps -/

section Steps

variable {s : Waiting} {deadline wait : Int} {res : Result}

theorem tick_entered (hphase : s.phase = .entered) (henabled : p.enabled = true)
    (hban : ∀ deadline ∈ banUntil, deadline ≤ s.now) (hburst : (n : ℚ) ≤ p.account.burst) :
    p.tick phone recipient n banUntil draw s = some { s with phase := .gated } := by
  have hfree : banUntil.filter (fun deadline => deadline - s.now > 0) = none := by
    rw [Option.filter_eq_none_iff]
    intro deadline hdeadline
    have hpast := hban deadline hdeadline
    simpa using hpast
  have hgate : p.gate n banUntil s.now = .gated := by
    unfold gate
    rw [hfree]
    exact if_neg (not_lt.mpr hburst)
  simp [tick, nextStep, hphase, step, henabled, hgate, rest]

theorem tick_gated (hphase : s.phase = .gated) (hcap : p.recipient = none ∨ recipient = "") :
    p.tick phone recipient n banUntil draw s = some { s with phase := .counted } := by
  have hcounted : p.countRecipient phone recipient n s.limiters.windows s.now s.now =
      (s.limiters.windows, .counted) := by
    unfold countRecipient
    rcases hcap with hnone | hempty
    · rw [hnone]
    · cases p.recipient with
      | none => rfl
      | some limiter => exact if_pos hempty
  simp [tick, nextStep, hphase, step, hcounted, rest]

theorem tick_counted (hphase : s.phase = .counted) :
    p.tick phone recipient n banUntil draw s =
      some { s with phase := .looping (s.now + p.maxWait) } := by
  simp [tick, nextStep, hphase, step, rest]

theorem tick_cleared (hphase : s.phase = .looping deadline)
    (hnow : TokenBucketLimiter.need n ≤ p.account.available s.limiters.buckets phone s.now) :
    ∃ limiters, p.tick phone recipient n banUntil draw s =
      some { s with limiters, phase := .done .cleared } := by
  have hallowed := (TokenBucketLimiter.allowN_granted hnow).1
  refine ⟨{ s.limiters with
    buckets := (p.account.allowN s.limiters.buckets phone n s.now).1 }, ?_⟩
  simp [tick, nextStep, hphase, step, spend, hallowed, rest]

/-- A denied request leaves the bucket as any later look finds it. -/
theorem tick_denied (hphase : s.phase = .looping deadline) (hmode : p.mode = "pace")
    (hnow : ¬ TokenBucketLimiter.need n ≤ p.account.available s.limiters.buckets phone s.now) :
    ∃ limiters res, p.tick phone recipient n banUntil draw s =
        some { s with limiters, phase := .denied deadline res } ∧
      ∀ later, s.now ≤ later → p.account.available limiters.buckets phone later =
        p.account.available s.limiters.buckets phone later := by
  have hdenied := (TokenBucketLimiter.allowN_denied hnow).1
  refine ⟨{ s.limiters with
    buckets := (p.account.allowN s.limiters.buckets phone n s.now).1 },
    (p.account.allowN s.limiters.buckets phone n s.now).2, ?_, ?_⟩
  · simp [tick, nextStep, hphase, step, spend, hdenied, hmode, rest]
  · intro later hlater
    exact TokenBucketLimiter.available_denied hdenied hlater

theorem tick_measured (hphase : s.phase = .denied deadline res) (hdraw : p.draws (draw s) = true)
    (hleft : s.now < deadline) :
    p.tick phone recipient n banUntil draw s = some { s with
      phase := .sleeping deadline (min (res.retryAfter + draw s) (deadline - s.now)) } := by
  have hremaining : ¬ deadline - s.now ≤ 0 := by omega
  have hmeasure : measure deadline res s.now (draw s) =
      .sleeping deadline (min (res.retryAfter + draw s) (deadline - s.now)) := if_neg hremaining
  simp [tick, nextStep, hphase, step, hdraw, hmeasure, rest]

theorem tick_expired (hphase : s.phase = .denied deadline res) (hdraw : p.draws (draw s) = true)
    (hover : deadline ≤ s.now) :
    p.tick phone recipient n banUntil draw s =
      some { s with phase := .done (.rateLimited { retryAfter := res.retryAfter }) } := by
  have hmeasure : measure deadline res s.now (draw s) =
      .done (.rateLimited { retryAfter := res.retryAfter }) := if_pos (by omega)
  simp [tick, nextStep, hphase, step, hdraw, hmeasure, rest]

theorem tick_sleeping (hphase : s.phase = .sleeping deadline wait) :
    p.tick phone recipient n banUntil draw s =
      some { s with
        phase := .looping deadline, now := s.now + max wait 1, slept := s.slept + max wait 1 } := by
  simp [tick, nextStep, hphase, step, wake, rest]

theorem tick_done {outcome : Outcome} (hphase : s.phase = .done outcome) :
    p.tick phone recipient n banUntil draw s = none := by
  simp [tick, nextStep, hphase]

end Steps

/-! ### The loop -/

/-- Before the deadline, since the call began at `start` with `buckets`: the call has slept for
the time that has passed, and the bucket is what it would be without the call. -/
structure OnTime (p : Pacer) (phone : String) (buckets : Buckets) (start : Int) (s : Waiting) :
    Prop where
  started : start ≤ s.now
  due : s.now ≤ start + p.maxWait
  slept : s.slept = s.now - start
  bucket : ∀ later, s.now ≤ later → p.account.available s.limiters.buckets phone later =
    p.account.available buckets phone later

/-- What is known of a call that began at `start`, by its phase. -/
def Awaits (p : Pacer) (phone : String) (n : Int) (buckets : Buckets) (start : Int)
    (s : Waiting) : Prop :=
  match s.phase with
  | .entered | .gated | .counted => OnTime p phone buckets start s ∧ s.now = start
  | .looping deadline => OnTime p phone buckets start s ∧ deadline = start + p.maxWait
  | .denied deadline _ => OnTime p phone buckets start s ∧ deadline = start + p.maxWait ∧
      ¬ TokenBucketLimiter.need n ≤ p.account.available buckets phone s.now
  | .sleeping deadline wait => OnTime p phone buckets start s ∧ deadline = start + p.maxWait ∧
      s.now < deadline ∧ wait ≤ deadline - s.now
  | .done .cleared =>
      TokenBucketLimiter.need n ≤ p.account.available buckets phone (start + p.maxWait)
  | .done (.rateLimited _) => s.slept = p.maxWait ∧
      ¬ TokenBucketLimiter.need n ≤ p.account.available buckets phone (start + p.maxWait)
  | .done (.failed _) => False

/-- The steps that are left at most: three for each nanosecond to the deadline. -/
def stepsLeft (p : Pacer) (s : Waiting) : Nat :=
  match s.phase with
  | .entered => 3 * p.maxWait.toNat + 5
  | .gated => 3 * p.maxWait.toNat + 4
  | .counted => 3 * p.maxWait.toNat + 3
  | .looping deadline => 3 * (deadline - s.now).toNat + 2
  | .denied deadline _ => 3 * (deadline - s.now).toNat + 1
  | .sleeping deadline _ => 3 * (deadline - s.now).toNat
  | .done _ => 0

section Loop

variable {buckets : Buckets} {start : Int} {s : Waiting}

theorem awaits_looping {deadline : Int} (hphase : s.phase = .looping deadline)
    (hmode : p.mode = "pace") (hneed : TokenBucketLimiter.need n ≤ p.account.burst)
    (h : Awaits p phone n buckets start s) :
    ∃ t, p.tick phone recipient n banUntil draw s = some t ∧ Awaits p phone n buckets start t ∧
      stepsLeft p t < stepsLeft p s := by
  simp only [Awaits, hphase] at h
  obtain ⟨hontime, hdeadline⟩ := h
  by_cases hnow : TokenBucketLimiter.need n ≤ p.account.available s.limiters.buckets phone s.now
  · obtain ⟨limiters, htick⟩ := tick_cleared hphase hnow
    refine ⟨_, htick, ?_, by simp [stepsLeft, hphase]⟩
    rw [hontime.bucket s.now le_rfl] at hnow
    exact TokenBucketLimiter.available_mono hneed hontime.due hnow
  · obtain ⟨limiters, res, htick, hbucket⟩ := tick_denied hphase hmode hnow
    refine ⟨_, htick, ⟨?_, hdeadline, ?_⟩, by simp [stepsLeft, hphase]⟩
    · exact { hontime with
        bucket := fun later hlater => (hbucket later hlater).trans (hontime.bucket later hlater) }
    · rw [hontime.bucket s.now le_rfl] at hnow
      exact hnow

theorem awaits_denied {deadline : Int} {res : Result} (hphase : s.phase = .denied deadline res)
    (hdraw : p.draws (draw s) = true) (h : Awaits p phone n buckets start s) :
    ∃ t, p.tick phone recipient n banUntil draw s = some t ∧ Awaits p phone n buckets start t ∧
      stepsLeft p t < stepsLeft p s := by
  simp only [Awaits, hphase] at h
  obtain ⟨hontime, hdeadline, hshort⟩ := h
  rcases lt_or_ge s.now deadline with hleft | hover
  · refine ⟨_, tick_measured hphase hdraw hleft, ⟨?_, hdeadline, hleft, min_le_right _ _⟩, ?_⟩
    · exact { hontime with }
    · simp [stepsLeft, hphase]
  · -- the last look at the bucket was at the deadline
    have hend : s.now = start + p.maxWait := le_antisymm hontime.due (hdeadline ▸ hover)
    refine ⟨_, tick_expired hphase hdraw hover, ⟨?_, ?_⟩, by simp [stepsLeft, hphase]⟩
    · have hslept := hontime.slept
      simp only
      omega
    · rw [← hend]
      exact hshort

theorem awaits_sleeping {deadline wait : Int} (hphase : s.phase = .sleeping deadline wait)
    (h : Awaits p phone n buckets start s) :
    ∃ t, p.tick phone recipient n banUntil draw s = some t ∧ Awaits p phone n buckets start t ∧
      stepsLeft p t < stepsLeft p s := by
  simp only [Awaits, hphase] at h
  obtain ⟨hontime, hdeadline, hleft, hwait⟩ := h
  have hstarted := hontime.started
  have hslept := hontime.slept
  refine ⟨_, tick_sleeping hphase, ⟨⟨?_, ?_, ?_, ?_⟩, hdeadline⟩, ?_⟩
  · simp only
    omega
  · simp only
    omega
  · simp only
    omega
  · intro later hlater
    apply hontime.bucket
    simp only at hlater
    omega
  · simp only [stepsLeft, hphase]
    omega

end Loop

/-- How a call ends that waits for `n` tokens. -/
structure Ending (p : Pacer) (phone : String) (n : Int) (buckets : Buckets) (start : Int)
    (t : Waiting) : Prop where
  returned : t.phase = .done .cleared ∨ ∃ err, t.phase = .done (.rateLimited err)
  cleared_iff : t.phase = .done .cleared ↔
    ⌈p.account.refillTime buckets phone n start⌉ ≤ p.maxWait
  slept : t.phase ≠ .done .cleared → t.slept = p.maxWait

theorem awaits_done {buckets : Buckets} {start : Int} {s : Waiting} {outcome : Outcome}
    (hphase : s.phase = .done outcome) (hwait : 0 ≤ p.maxWait)
    (hneed : TokenBucketLimiter.need n ≤ p.account.burst) (h : Awaits p phone n buckets start s) :
    Ending p phone n buckets start s := by
  have hrefill : ⌈p.account.refillTime buckets phone n start⌉ ≤ p.maxWait ↔
      TokenBucketLimiter.need n ≤ p.account.available buckets phone (start + p.maxWait) := by
    rw [← TokenBucketLimiter.refillTime_le_iff hneed (show start ≤ start + p.maxWait by omega),
      add_sub_cancel_left]
  simp only [Awaits, hphase] at h
  cases outcome with
  | cleared =>
    refine ⟨.inl hphase, ?_, fun hne => absurd hphase hne⟩
    rw [hrefill]
    exact ⟨fun _ => h, fun _ => hphase⟩
  | rateLimited err =>
    refine ⟨.inr ⟨err, hphase⟩, ?_, fun _ => h.1⟩
    rw [hrefill, hphase]
    exact ⟨nofun, fun henough => absurd henough h.2⟩
  | failed err => exact h.elim

/-- In pace mode, with no ban in force and no cap of the recipient, a call for at most a burst
ends: it is cleared when the missing tokens take no longer than the longest wait, rounded up to a
nanosecond, and otherwise is rejected after having slept for exactly that long. -/
theorem wait_exact (p : Pacer) (henabled : p.enabled = true) (hmode : p.mode = "pace")
    (hwait : 0 ≤ p.maxWait) (phone recipient : String)
    (hcap : p.recipient = none ∨ recipient = "") (n : Int) (hpos : 1 ≤ n)
    (hburst : (n : ℚ) ≤ p.account.burst) (limiters : Limiters) (start : Int)
    (banUntil : Option Int) (hban : ∀ deadline ∈ banUntil, deadline ≤ start)
    (draw : Waiting → Int) (hdraw : ∀ s, p.draws (draw s) = true) :
    ∃ t, EndsIn (p.tick phone recipient n banUntil draw) ⟨limiters, .entered, start, 0⟩ t ∧
      Ending p phone n limiters.buckets start t := by
  have hneed : TokenBucketLimiter.need n ≤ p.account.burst := by
    rw [TokenBucketLimiter.need_of_one_le hpos]
    exact hburst
  have hstep : ∀ s, Awaits p phone n limiters.buckets start s →
      (p.tick phone recipient n banUntil draw s = none ∧
        Ending p phone n limiters.buckets start s) ∨
      ∃ t, p.tick phone recipient n banUntil draw s = some t ∧
        Awaits p phone n limiters.buckets start t ∧ stepsLeft p t < stepsLeft p s := by
    intro s hs
    cases hphase : s.phase with
    | entered =>
      right
      simp only [Awaits, hphase] at hs
      have hfree : ∀ deadline ∈ banUntil, deadline ≤ s.now := by
        rw [hs.2]
        exact hban
      refine ⟨_, tick_entered hphase henabled hfree hburst, ⟨{ hs.1 with }, hs.2⟩, ?_⟩
      simp [stepsLeft, hphase]
    | gated =>
      right
      simp only [Awaits, hphase] at hs
      refine ⟨_, tick_gated hphase hcap, ⟨{ hs.1 with }, hs.2⟩, ?_⟩
      simp [stepsLeft, hphase]
    | counted =>
      right
      simp only [Awaits, hphase] at hs
      refine ⟨_, tick_counted hphase, ⟨{ hs.1 with }, by rw [hs.2]⟩, ?_⟩
      simp [stepsLeft, hphase]
    | looping deadline => exact .inr (awaits_looping hphase hmode hneed hs)
    | denied deadline res => exact .inr (awaits_denied hphase (hdraw s) hs)
    | sleeping deadline wait => exact .inr (awaits_sleeping hphase hs)
    | done outcome => exact .inl ⟨tick_done hphase, awaits_done hphase hwait hneed hs⟩
  refine endsIn_of_measure (stepsLeft p) hstep ?_
  refine ⟨⟨le_rfl, ?_, ?_, fun _ _ => rfl⟩, rfl⟩ <;> simp [hwait]

/-- A token a second, and at most two seconds of waiting for it. -/
def aTokenASecond : Pacer where
  enabled := true
  mode := "pace"
  account := newTokenBucketLimiter ⟨1, 1, "acct:"⟩
  recipient := none
  hasFallback := false
  maxWait := 2 * Duration.second
  jitter := 0

/-- The one token has just been taken. -/
def spent : Limiters :=
  ⟨fun key => if key = "acct:628111" then some ⟨0, 0⟩ else none, fun _ => none⟩

theorem wait_exact_spent :
    ∃ t, EndsIn (aTokenASecond.tick "628111" "" 1 none fun _ => 0) ⟨spent, .entered, 0, 0⟩ t ∧
      Ending aTokenASecond "628111" 1 spent.buckets 0 t :=
  wait_exact aTokenASecond rfl rfl (by decide) "628111" "" (.inl rfl) 1 le_rfl
    (by norm_num [aTokenASecond, newTokenBucketLimiter]) spent 0 none nofun (fun _ => 0)
    (fun _ => by decide)

end Pacer

end WhatsappGateway.Ratelimiter
