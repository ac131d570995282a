import WhatsappGateway.Config
import WhatsappGateway.Ratelimiter.Limiters

/-!
The outbound pacer. One call of `Wait` is a sequence of steps: the ban gate, the
cap of the recipient, and then the account's bucket, asked again after each sleep.
Other calls may take from the limiters between two steps. The ban state, the clock
readings, the jitter and the end of a sleep come from outside.
-/

namespace WhatsappGateway.Ratelimiter

open Lib

structure PacerConfig where
  enabled : Bool
  mode : String
  accountRate : ℚ
  accountBurst : ℚ
  maxWait : Int
  jitter : Int
  recipientLimit : Int
  recipientWindow : Int
  hasFallback : Bool

structure Pacer where
  enabled : Bool
  mode : String
  account : TokenBucketLimiter
  recipient : Option MemoryLimiter
  hasFallback : Bool
  maxWait : Int
  jitter : Int

/-- The effective capacity: more than that is never satisfiable. -/
def Pacer.accountBurst (p : Pacer) : ℚ := p.account.burst

def newPacer (cfg : PacerConfig) : Pacer where
  enabled := cfg.enabled
  mode := if cfg.mode ≠ "reject" then "pace" else cfg.mode
  account := newTokenBucketLimiter ⟨cfg.accountRate, cfg.accountBurst, "acct:"⟩
  recipient :=
    if cfg.recipientLimit > 0 ∧ cfg.recipientWindow > 0 then
      some ⟨cfg.recipientLimit, cfg.recipientWindow, "rcpt:"⟩
    else none
  hasFallback := cfg.hasFallback
  maxWait := cfg.maxWait
  jitter := cfg.jitter

/-- The configuration that the gateway gives its pacer. -/
def pacerConfig (cfg : Config) : PacerConfig where
  enabled := cfg.outboundPaceEnabled
  mode := cfg.outboundPaceMode
  accountRate := cfg.outboundPaceRatePerSecond
  accountBurst := cfg.outboundPaceBurst
  maxWait := Duration.seconds cfg.outboundPaceMaxWaitSeconds
  jitter := Duration.wrap64 (cfg.outboundPaceJitterMs * 1000000)
  recipientLimit := cfg.outboundPacePerRecipientRequests
  recipientWindow := Duration.seconds cfg.outboundPacePerRecipientWindowSeconds
  hasFallback := true

/-- On a loaded configuration the clamps of the constructors change nothing. -/
theorem newPacer_normalize (cfg : Config) :
    (newPacer (pacerConfig cfg.normalize)).account.rate =
        cfg.normalize.outboundPaceRatePerSecond ∧
      (newPacer (pacerConfig cfg.normalize)).account.burst = cfg.normalize.outboundPaceBurst ∧
      (newPacer (pacerConfig cfg.normalize)).mode = cfg.normalize.outboundPaceMode := by
  simp only [newPacer, pacerConfig, newTokenBucketLimiter, Config.normalize]
  refine ⟨?_, ?_, ?_⟩ <;> grind

/-- What the limiters of a pacer remember. -/
structure Limiters where
  buckets : Buckets
  windows : Windows

inductive Outcome where
  | cleared
  | rateLimited (err : RateLimitError)
  | failed (err : String)
deriving DecidableEq, Repr

/-- Where a call of `Wait` is. -/
inductive Phase where
  | entered
  | gated
  | counted
  | looping (deadline : Int)
  | denied (deadline : Int) (res : Result)
  | sleeping (deadline wait : Int)
  | done (outcome : Outcome)
deriving DecidableEq, Repr

/-- A step of `Wait`, with what it gets from outside: instants, the answer of the fallback
limiter, the end of a ban, a jitter, the error of a cancelled sleep. -/
inductive WaitStep where
  | fallback (answer : Except String Result)
  | checkBan (banUntil : Option Int) (now : Int)
  | count (now later : Int)
  | setDeadline (now : Int)
  | allow (now : Int)
  | measure (now jitter : Int)
  | wake (err : Option String)

def Result.rejection (res : Result) : RateLimitError where
  retryAfter := res.retryAfter
  limit := res.limit
  remaining := res.remaining

namespace Pacer

/-- The draws of `randJitter`: below the configured jitter, and 0 when there is none. -/
def draws (p : Pacer) (jitter : Int) : Bool := 0 ≤ jitter ∧ jitter ≤ max 0 (p.jitter - 1)

/-- The disabled pacer leaves limiting to the fallback. -/
def fallbackReject (p : Pacer) (answer : Except String Result) : Outcome :=
  if p.hasFallback then
    match answer with
    | .error err => .failed err
    | .ok res => if res.allowed then .cleared else .rateLimited res.rejection
  else .cleared

/-- The ban gate, and then the test for a request that no bucket can satisfy. -/
def gate (p : Pacer) (n : Int) (banUntil : Option Int) (now : Int) : Phase :=
  match banUntil.filter fun deadline => deadline - now > 0 with
  | some deadline => .done (.rateLimited { retryAfter := deadline - now })
  | none =>
    if n > p.accountBurst then
      .done (.rateLimited { retryAfter := 0, limit := truncate p.accountBurst })
    else .gated

/-- The hard cap of the recipient. -/
def countRecipient (p : Pacer) (phone recipient : String) (n : Int) (windows : Windows)
    (now later : Int) : Windows × Phase :=
  match p.recipient with
  | some limiter =>
    if recipient = "" then (windows, .counted)
    else
      let (windows, res) := limiter.allowN windows (phone ++ ":" ++ recipient) n now later
      (windows, if res.allowed then .counted else .done (.rateLimited res.rejection))
  | none => (windows, .counted)

/-- One request to the bucket of the account. -/
def spend (p : Pacer) (phone : String) (n deadline : Int) (buckets : Buckets) (now : Int) :
    Buckets × Phase :=
  let (buckets, res) := p.account.allowN buckets phone n now
  (buckets,
    if res.allowed then .done .cleared
    else if p.mode = "reject" then .done (.rateLimited res.rejection)
    else .denied deadline res)

/-- How long to sleep after a denial, or the end of the wait. -/
def measure (deadline : Int) (res : Result) (now jitter : Int) : Phase :=
  let remaining := deadline - now
  if remaining ≤ 0 then .done (.rateLimited { retryAfter := res.retryAfter })
  else .sleeping deadline (min (res.retryAfter + jitter) remaining)

/-- The end of a sleep. A sleep of no length cannot be cancelled. -/
def wake (deadline wait : Int) (err : Option String) : Phase :=
  match err with
  | some err => if wait ≤ 0 then .looping deadline else .done (.failed err)
  | none => .looping deadline

/-- `Wait` for `n` tokens of the account `phone`, to `recipient`. -/
def step (p : Pacer) (phone recipient : String) (n : Int) (limiters : Limiters) :
    Phase → WaitStep → Option (Limiters × Phase)
  | .entered, .fallback answer =>
    if p.enabled then none else some (limiters, .done (p.fallbackReject answer))
  | .entered, .checkBan banUntil now =>
    if p.enabled then some (limiters, p.gate n banUntil now) else none
  | .gated, .count now later =>
    let (windows, phase) := p.countRecipient phone recipient n limiters.windows now later
    some ({ limiters with windows }, phase)
  | .counted, .setDeadline now => some (limiters, .looping (now + p.maxWait))
  | .looping deadline, .allow now =>
    let (buckets, phase) := p.spend phone n deadline limiters.buckets now
    some ({ limiters with buckets }, phase)
  | .denied deadline res, .measure now jitter =>
    if p.draws jitter then some (limiters, measure deadline res now jitter) else none
  | .sleeping deadline wait, .wake err => some (limiters, wake deadline wait err)
  | _, _ => none

variable {p : Pacer} {phone recipient : String} {n : Int} {limiters : Limiters}

/-- While the account is banned, a call of the enabled pacer ends at the gate, and takes
nothing from the limiters. -/
theorem step_banned (henabled : p.enabled = true) {deadline now : Int} (hnow : now < deadline) :
    p.step phone recipient n limiters .entered (.checkBan (some deadline) now) =
      some (limiters, .done (.rateLimited { retryAfter := deadline - now })) := by
  simp [step, henabled, gate, Option.filter, hnow]

end Pacer

end WhatsappGateway.Ratelimiter
