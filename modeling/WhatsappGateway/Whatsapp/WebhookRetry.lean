import WhatsappGateway.Lib.Backoff
import WhatsappGateway.Lib.Int64
import WhatsappGateway.Whatsapp.ClientErrors

/-!
The retries of a webhook that is delivered off the request path. The time that is granted for
them is computed before the first attempt, by a loop of its own. Both compute with 64-bit
durations, and only the number of retries is capped.
-/

namespace WhatsappGateway.Whatsapp

open Lib Duration

/-- The configuration of the retries; the numbers are 64-bit integers. -/
structure RetryConfig where
  webhookMaxRetries : Int := 3
  webhookRetryBackoffSeconds : Int := 2
deriving DecidableEq, Repr

def maxWebhookRetries : Int := 10

structure WebhookSender where
  maxRetries : Int
  backoff : Int
  timeout : Int
deriving DecidableEq, Repr

def newWebhookSender (cfg : RetryConfig) : WebhookSender :=
  let maxRetries := if cfg.webhookMaxRetries < 0 then 0 else cfg.webhookMaxRetries
  let maxRetries := if maxRetries > maxWebhookRetries then maxWebhookRetries else maxRetries
  let backoff := seconds cfg.webhookRetryBackoffSeconds
  let backoff := if backoff ≤ 0 then 2 * second else backoff
  { maxRetries, backoff, timeout := 5 * second }

/-- What a delivery comes upon: the error of each attempt, and that of the context when it is
done before the pause before an attempt is over. -/
structure DeliveryEnv where
  send : Nat → Option Err
  done : Nat → Option Err

inductive DeliveryEvent where
  | pause (d : Int)
  | attempt (number : Nat)
deriving DecidableEq, Repr

structure Delivery where
  events : List DeliveryEvent
  err : Option Err

def Delivery.after (event : DeliveryEvent) (rest : Delivery) : Delivery :=
  ⟨event :: rest.events, rest.err⟩

/-- The pause before an attempt, and what comes next unless the context is done by then. -/
def DeliveryEnv.pause (env : DeliveryEnv) (number : Nat) (d : Int) (next : Delivery) : Delivery :=
  match env.done number with
  | some err => .after (.pause d) ⟨[], some err⟩
  | none => .after (.pause d) next

/-- An attempt, and what comes after its error. -/
def DeliveryEnv.attempt (env : DeliveryEnv) (number : Nat) (next : Err → Delivery) : Delivery :=
  match env.send number with
  | none => .after (.attempt number) ⟨[], none⟩
  | some err => .after (.attempt number) (next err)

/-- The loop from an attempt on, with `left` attempts up to `maxRetries`. -/
def WebhookSender.retryFrom (ws : WebhookSender) (env : DeliveryEnv) :
    Nat → Nat → Option Err → Delivery
  | 0, _, err => ⟨[], err⟩
  | left + 1, attempt, _ =>
    let sent := env.attempt attempt fun err => ws.retryFrom env left (attempt + 1) (some err)
    if attempt > 0 then env.pause attempt (shl64 ws.backoff (attempt - 1)) sent else sent

def WebhookSender.sendWithRetry (ws : WebhookSender) (env : DeliveryEnv) : Delivery :=
  ws.retryFrom env (ws.maxRetries + 1).toNat 0 none

def WebhookSender.addAttempt (ws : WebhookSender) (budget : Int) (attempt : Nat) : Int :=
  let budget := wrap64 (budget + 6 * second)
  if attempt > 0 then wrap64 (budget + shl64 ws.backoff (attempt - 1)) else budget

/-- The budget after a number of rounds of its loop. -/
def WebhookSender.budgetAfter (ws : WebhookSender) (rounds : Nat) : Int :=
  (List.range rounds).foldl ws.addAttempt 0

def WebhookSender.retryBudget (ws : WebhookSender) : Int :=
  ws.budgetAfter (ws.maxRetries + 1).toNat

/-! ### What a delivery takes -/

def DeliveryEvent.number? : DeliveryEvent → Option Nat
  | .pause _ => none
  | .attempt number => some number

def Delivery.attempts (d : Delivery) : List Nat := d.events.filterMap (·.number?)

/-- An attempt ends at its timeout, and a timer that is set to the past fires at once. -/
def DeliveryEvent.time (ws : WebhookSender) : DeliveryEvent → Int
  | .pause d => max d 0
  | .attempt _ => ws.timeout

/-- The longest a delivery can take. -/
def Delivery.time (ws : WebhookSender) (d : Delivery) : Int := (d.events.map (·.time ws)).sum

/-- The configured number of retries, capped. -/
def RetryConfig.retries (cfg : RetryConfig) : Nat := (max 0 (min cfg.webhookMaxRetries 10)).toNat

/-- A delivery makes at most one attempt more than there are retries, one after another, and the
first that succeeds is the last. -/
def StopsInTime (cfg : RetryConfig) (env : DeliveryEnv) (d : Delivery) : Prop :=
  ∃ count ≤ cfg.retries + 1, d.attempts = List.range count ∧
    (∀ number, number + 1 < count → env.send number ≠ none) ∧
    ∀ number < count, env.send number = none → d.err = none

/-- The budget covers every delivery, and nothing of it overflows. -/
structure Budgeted (cfg : RetryConfig) : Prop where
  stops : ∀ env, StopsInTime cfg env ((newWebhookSender cfg).sendWithRetry env)
  covers : ∀ env, ((newWebhookSender cfg).sendWithRetry env).time (newWebhookSender cfg) ≤
    (newWebhookSender cfg).retryBudget
  conversion : seconds cfg.webhookRetryBackoffSeconds = cfg.webhookRetryBackoffSeconds * second
  shifts : ∀ n < cfg.retries, shl64 (newWebhookSender cfg).backoff n =
    (newWebhookSender cfg).backoff * 2 ^ n
  sums : ∀ rounds ≤ cfg.retries + 1, (newWebhookSender cfg).budgetAfter rounds =
    attemptsTime (6 * second) (newWebhookSender cfg).backoff rounds

/-- The backoff in seconds, or its default. -/
def RetryConfig.backoffSeconds (cfg : RetryConfig) : Int :=
  if cfg.webhookRetryBackoffSeconds ≤ 0 then 2 else cfg.webhookRetryBackoffSeconds

/-- The backoff in nanoseconds, and six seconds for each attempt with all pauses, are 64-bit
integers. -/
def RetryConfig.Fits (cfg : RetryConfig) : Prop :=
  InInt64 (cfg.webhookRetryBackoffSeconds * second) ∧
    6 * second * (cfg.retries + 1) + cfg.backoffSeconds * second * (2 ^ cfg.retries - 1) ≤ maxInt64

variable {cfg : RetryConfig} {ws : WebhookSender} {env : DeliveryEnv} {left attempt : Nat}
  {err : Option Err}

/-! ### The sender -/

theorem newWebhookSender_attempts (cfg : RetryConfig) :
    ((newWebhookSender cfg).maxRetries + 1).toNat = cfg.retries + 1 := by
  simp only [newWebhookSender, maxWebhookRetries, RetryConfig.retries]
  omega

theorem newWebhookSender_backoff_pos (cfg : RetryConfig) : 0 < (newWebhookSender cfg).backoff := by
  simp only [newWebhookSender, second]
  omega

theorem newWebhookSender_backoff
    (hexact : seconds cfg.webhookRetryBackoffSeconds = cfg.webhookRetryBackoffSeconds * second) :
    (newWebhookSender cfg).backoff = cfg.backoffSeconds * second := by
  simp only [newWebhookSender, hexact, RetryConfig.backoffSeconds, second]
  omega

/-! ### Attempts -/

/-- What `retryFrom` does from an attempt on. -/
def AttemptsFrom (env : DeliveryEnv) (left attempt : Nat) (d : Delivery) : Prop :=
  ∃ count ≤ left, d.attempts = List.range' attempt count ∧
    (∀ number, attempt ≤ number → number + 1 < attempt + count → env.send number ≠ none) ∧
    ∀ number, attempt ≤ number → number < attempt + count → env.send number = none → d.err = none

theorem AttemptsFrom.stopped (err : Option Err) : AttemptsFrom env left attempt ⟨[], err⟩ := by
  refine ⟨0, Nat.zero_le _, rfl, ?_, ?_⟩
  · intro number hfrom hbelow
    omega
  · intro number hfrom hbelow
    omega

theorem AttemptsFrom.pause {d : Delivery} (h : AttemptsFrom env left attempt d) (length : Int) :
    AttemptsFrom env left attempt (env.pause attempt length d) := by
  unfold DeliveryEnv.pause
  cases env.done attempt with
  | some err => exact stopped (some err)
  | none => exact h

theorem AttemptsFrom.succeeded :
    AttemptsFrom env (left + 1) attempt (.after (.attempt attempt) ⟨[], none⟩) := by
  refine ⟨1, by omega, rfl, ?_, ?_⟩
  · intro number hfrom hbelow
    omega
  · exact fun _ _ _ _ => rfl

theorem AttemptsFrom.failed {d : Delivery} {err : Err} (hfailed : env.send attempt = some err)
    (hrest : AttemptsFrom env left (attempt + 1) d) :
    AttemptsFrom env (left + 1) attempt (.after (.attempt attempt) d) := by
  obtain ⟨count, hcount, hattempts, hstops, herr⟩ := hrest
  refine ⟨count + 1, by omega, ?_, ?_, ?_⟩
  · rw [List.range'_succ, ← hattempts]
    rfl
  · intro number hfrom hbelow
    rcases Nat.eq_or_lt_of_le hfrom with rfl | hlater
    · rw [hfailed]
      exact Option.some_ne_none err
    · exact hstops number hlater (by omega)
  · intro number hfrom hbelow hsent
    rcases Nat.eq_or_lt_of_le hfrom with rfl | hlater
    · rw [hfailed] at hsent
      cases hsent
    · exact herr number hlater (by omega) hsent

theorem AttemptsFrom.attempted {next : Err → Delivery}
    (hnext : ∀ err, AttemptsFrom env left (attempt + 1) (next err)) :
    AttemptsFrom env (left + 1) attempt (env.attempt attempt next) := by
  unfold DeliveryEnv.attempt
  cases hsend : env.send attempt with
  | none => exact succeeded
  | some err => exact failed hsend (hnext err)

theorem retryFrom_attempts (ws : WebhookSender) (env : DeliveryEnv) (left attempt : Nat)
    (err : Option Err) : AttemptsFrom env left attempt (ws.retryFrom env left attempt err) := by
  induction left generalizing attempt err with
  | zero => exact .stopped err
  | succ left ih =>
    have hsent := AttemptsFrom.attempted fun err => ih (attempt + 1) (some err)
    rw [WebhookSender.retryFrom]
    by_cases hpause : attempt > 0
    · rw [if_pos hpause]
      exact hsent.pause _
    · rw [if_neg hpause]
      exact hsent

theorem sendWithRetry_stops (cfg : RetryConfig) (env : DeliveryEnv) :
    StopsInTime cfg env ((newWebhookSender cfg).sendWithRetry env) := by
  rw [WebhookSender.sendWithRetry, newWebhookSender_attempts]
  obtain ⟨count, hcount, hattempts, hstops, herr⟩ :=
    retryFrom_attempts (newWebhookSender cfg) env (cfg.retries + 1) 0 none
  refine ⟨count, hcount, ?_, ?_, ?_⟩
  · rw [hattempts, List.range_eq_range']
  · exact fun number hbelow => hstops number number.zero_le (by omega)
  · exact fun number hbelow => herr number number.zero_le (by omega)

/-! ### Time -/

theorem Delivery.time_after (event : DeliveryEvent) (d : Delivery) :
    (Delivery.after event d).time ws = event.time ws + d.time ws := List.sum_cons

theorem Delivery.time_stopped (err : Option Err) : Delivery.time ws ⟨[], err⟩ = 0 := rfl

theorem time_pause {next : Delivery} {bound : Int} (env : DeliveryEnv) (number : Nat) (length : Int)
    (hbound : 0 ≤ bound) (hnext : next.time ws ≤ bound) :
    (env.pause number length next).time ws ≤ max length 0 + bound := by
  unfold DeliveryEnv.pause
  cases env.done number with
  | some err =>
    rw [Delivery.time_after, Delivery.time_stopped, DeliveryEvent.time]
    omega
  | none =>
    rw [Delivery.time_after, DeliveryEvent.time]
    omega

theorem time_attempt {next : Err → Delivery} {bound : Int} (env : DeliveryEnv) (number : Nat)
    (hbound : 0 ≤ bound)
    (hnext : ∀ err, (next err).time ws ≤ bound) :
    (env.attempt number next).time ws ≤ ws.timeout + bound := by
  unfold DeliveryEnv.attempt
  cases env.send number with
  | none =>
    rw [Delivery.time_after, Delivery.time_stopped, DeliveryEvent.time]
    omega
  | some err =>
    have herr := hnext err
    rw [Delivery.time_after, DeliveryEvent.time]
    omega

/-- From an attempt on a delivery takes no more than the attempts that are left, each with the
pause before it. -/
theorem retryFrom_time (ws : WebhookSender) (env : DeliveryEnv) (each : Int)
    (left attempt : Nat) (err : Option Err) (hbackoff : 0 ≤ ws.backoff)
    (htimeout : 0 ≤ ws.timeout) (heach : ws.timeout ≤ each)
    (hshifts : ∀ n, n + 1 < attempt + left → shl64 ws.backoff n = ws.backoff * 2 ^ n) :
    (ws.retryFrom env left attempt err).time ws ≤
      attemptsTime each ws.backoff (attempt + left) - attemptsTime each ws.backoff attempt := by
  induction left generalizing attempt err with
  | zero =>
    rw [WebhookSender.retryFrom, Delivery.time_stopped, Nat.add_zero]
    omega
  | succ left ih =>
    have hnext : attemptsTime each ws.backoff (attempt + 1) =
        attemptsTime each ws.backoff attempt + each + pauseBefore ws.backoff attempt := rfl
    have hlast : attemptsTime each ws.backoff (attempt + 1) ≤
        attemptsTime each ws.backoff (attempt + (left + 1)) :=
      attemptsTime_le (by omega) hbackoff (by omega)
    have hrest (err : Err) : (ws.retryFrom env left (attempt + 1) (some err)).time ws ≤
        attemptsTime each ws.backoff (attempt + (left + 1)) -
          attemptsTime each ws.backoff (attempt + 1) := by
      rw [Nat.add_comm left, ← Nat.add_assoc]
      exact ih (attempt + 1) (some err) fun n hn => hshifts n (by omega)
    have hsent := time_attempt env attempt (Int.sub_nonneg.mpr hlast) hrest
    rw [WebhookSender.retryFrom]
    by_cases hpause : attempt > 0
    · obtain ⟨n, rfl⟩ := Nat.exists_eq_add_one.mpr hpause
      have hlength : max (shl64 ws.backoff n) 0 = pauseBefore ws.backoff (n + 1) := by
        rw [hshifts n (by omega)]
        exact max_eq_left (pauseBefore_nonneg hbackoff (n + 1))
      have hpaused := time_pause env (n + 1) (shl64 ws.backoff n) (by omega) hsent
      rw [if_pos hpause, Nat.add_sub_cancel]
      omega
    · have hnone := pauseBefore_nonneg hbackoff attempt
      rw [if_neg hpause]
      omega

/-! ### The budget -/

theorem budgetAfter_succ (ws : WebhookSender) (rounds : Nat) :
    ws.budgetAfter (rounds + 1) = ws.addAttempt (ws.budgetAfter rounds) rounds := by
  rw [WebhookSender.budgetAfter, List.range_succ, List.foldl_append]
  rfl

theorem inInt64_budgetAfter (ws : WebhookSender) (rounds : Nat) :
    InInt64 (ws.budgetAfter rounds) := by
  cases rounds with
  | zero => exact inInt64_wrap64 0
  | succ rounds =>
    rw [budgetAfter_succ, WebhookSender.addAttempt]
    split
    · exact inInt64_wrap64 _
    · exact inInt64_wrap64 _

/-- A shift is exact when the pause fits. -/
theorem shl64_backoff {rounds n : Nat} (hbackoff : 0 ≤ ws.backoff)
    (hfits : attemptsTime (6 * second) ws.backoff rounds ≤ maxInt64) (hn : n + 1 < rounds) :
    shl64 ws.backoff n = ws.backoff * 2 ^ n := by
  have hnonneg : 0 ≤ ws.backoff * 2 ^ n := pauseBefore_nonneg hbackoff (n + 1)
  have hpause : ws.backoff * 2 ^ n ≤ attemptsTime (6 * second) ws.backoff rounds :=
    pauseBefore_le (by decide) hbackoff hn
  apply wrap64_eq_self_iff.mpr
  unfold InInt64 minInt64
  omega

theorem budgetAfter_eq {rounds : Nat} (hbackoff : 0 ≤ ws.backoff)
    (hfits : attemptsTime (6 * second) ws.backoff rounds ≤ maxInt64) :
    ws.budgetAfter rounds = attemptsTime (6 * second) ws.backoff rounds := by
  induction rounds with
  | zero => rfl
  | succ rounds ih =>
    have heach : 0 ≤ 6 * second := by decide
    have hbefore : attemptsTime (6 * second) ws.backoff rounds ≤
        attemptsTime (6 * second) ws.backoff (rounds + 1) :=
      attemptsTime_le heach hbackoff rounds.le_succ
    have hstart : 0 ≤ attemptsTime (6 * second) ws.backoff rounds :=
      attemptsTime_le heach hbackoff rounds.zero_le
    have hpause := pauseBefore_nonneg hbackoff rounds
    have hnext : attemptsTime (6 * second) ws.backoff (rounds + 1) =
      attemptsTime (6 * second) ws.backoff rounds + 6 * second +
        pauseBefore ws.backoff rounds := rfl
    have hattempt : wrap64 (attemptsTime (6 * second) ws.backoff rounds + 6 * second) =
        attemptsTime (6 * second) ws.backoff rounds + 6 * second := by
      apply wrap64_eq_self_iff.mpr
      unfold InInt64 minInt64 second at *
      omega
    rw [budgetAfter_succ, ih (by omega), WebhookSender.addAttempt, hattempt]
    cases rounds with
    | zero => rfl
    | succ rounds =>
      rw [if_pos rounds.succ_pos, Nat.add_sub_cancel, shl64_backoff hbackoff hfits (by omega)]
      apply wrap64_eq_self_iff.mpr
      refine ⟨?_, hfits⟩
      have hminimum : minInt64 ≤ 0 := by decide
      have htotal : 0 ≤ attemptsTime (6 * second) ws.backoff (rounds + 1 + 1) :=
        attemptsTime_le heach hbackoff (Nat.zero_le _)
      exact hminimum.trans htotal

theorem fits_iff (cfg : RetryConfig) :
    cfg.Fits ↔ InInt64 (cfg.webhookRetryBackoffSeconds * second) ∧
      attemptsTime (6 * second) (cfg.backoffSeconds * second) (cfg.retries + 1) ≤ maxInt64 := by
  rw [RetryConfig.Fits, attemptsTime_eq]

/-- The budget covers the attempts of a delivery with all pauses, and nothing overflows, exactly
when the backoff and all of it together are 64-bit integers. -/
theorem budgeted_iff (cfg : RetryConfig) : Budgeted cfg ↔ cfg.Fits := by
  rw [fits_iff]
  constructor
  · intro h
    refine ⟨wrap64_eq_self_iff.mp h.conversion, ?_⟩
    rw [← newWebhookSender_backoff h.conversion, ← h.sums (cfg.retries + 1) le_rfl]
    exact (inInt64_budgetAfter _ _).2
  · rintro ⟨hconversion, hfits⟩
    have hexact := wrap64_eq_self_iff.mpr hconversion
    have hbackoff := (newWebhookSender_backoff_pos cfg).le
    rw [← newWebhookSender_backoff hexact] at hfits
    have hshifts : ∀ n < cfg.retries, shl64 (newWebhookSender cfg).backoff n =
        (newWebhookSender cfg).backoff * 2 ^ n :=
      fun n hn => shl64_backoff hbackoff hfits (by omega)
    refine ⟨sendWithRetry_stops cfg, ?_, hexact, hshifts, ?_⟩
    · intro env
      have htimeout : (newWebhookSender cfg).timeout = 5 * second := rfl
      have htime := retryFrom_time (newWebhookSender cfg) env (6 * second) (cfg.retries + 1) 0 none
        hbackoff (by rw [htimeout]; decide) (by rw [htimeout]; decide)
        (fun n hn => hshifts n (by omega))
      rw [Nat.zero_add] at htime
      rw [WebhookSender.sendWithRetry, WebhookSender.retryBudget, newWebhookSender_attempts,
        budgetAfter_eq hbackoff hfits]
      exact htime.trans (sub_le_self _ le_rfl)
    · intro rounds hrounds
      have hbefore := attemptsTime_le (by decide : 0 ≤ 6 * second) hbackoff hrounds
      exact budgetAfter_eq hbackoff (hbefore.trans hfits)

/-- Every configuration is budgeted. -/
def AlwaysBudgeted : Prop := ∀ cfg, Budgeted cfg

/-- A base of ten million seconds, with the number of retries that the cap allows. -/
def absurdBackoff : RetryConfig := ⟨10, 10000000⟩

/-- The budget of the delivery is negative, so that its context is done from the start. -/
theorem absurdBackoff_not_budgeted : ¬ AlwaysBudgeted := by
  intro hall
  have hcovers := (hall absurdBackoff).covers ⟨fun _ => none, fun _ => none⟩
  have hbudget : (newWebhookSender absurdBackoff).retryBudget < 0 := by decide +kernel
  have htime : 0 ≤ ((newWebhookSender absurdBackoff).sendWithRetry
    ⟨fun _ => none, fun _ => none⟩).time (newWebhookSender absurdBackoff) := by decide +kernel
  omega

end WhatsappGateway.Whatsapp
