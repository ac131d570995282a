import Mathlib.Data.List.Perm.Basic
import WhatsappGateway.Lib.Run
import WhatsappGateway.Queue.WorkerPool

/-!
One message on a main queue, over all its deliveries. The broker holds copies of
it: on the main queue, in a retry queue, or dead-lettered. A worker takes a copy
from the main queue and processes it; a retry queue dead-letters its copies back
to the main queue. Every message of a queue has such a history of its own.
-/

namespace WhatsappGateway.WorkerPool

open Lib Queue

structure Broker where
  main : List Delivery
  waiting : List Delivery := []
  deadLettered : List Delivery := []
  invocations : Nat := 0
  succeeded : Bool := false

/-- The broker when the message has just been published. -/
def firstPublished (first : Delivery) : Broker := { main := [first] }

inductive Action where
  /-- A worker gets the `k`th copy. The broker takes a retry copy when `accepted`;
  this need not agree with what the publish reports. -/
  | process (k : Nat) (fresh : String) (outcome : HandlerOutcome)
      (report : PublishOutcome) (accepted : Bool)
  /-- The `k`th waiting copy expires, and comes back with these headers. -/
  | expire (k : Nat) (headers : Table)

/-- What an effect of the worker on `msg` is to the broker. -/
def Broker.apply (msg : Delivery) (accepted : Bool) (b : Broker) : Effect → Broker
  | .handle _ _ => { b with invocations := b.invocations + 1 }
  | .publish copy _ =>
    if accepted then { b with waiting := b.waiting ++ [⟨some copy.headers, copy.body⟩] } else b
  | .dispose .ack => b
  | .dispose (.nack true) => { b with main := msg :: b.main }
  | .dispose (.nack false) => { b with deadLettered := b.deadLettered ++ [msg] }

/-- The copy `msg` has been taken from the queue and is disposed of by `effects`. -/
def Broker.settle (msg : Delivery) (outcome : HandlerOutcome) (accepted : Bool)
    (effects : List Effect) (b : Broker) : Broker :=
  effects.foldl (Broker.apply msg accepted)
    { b with succeeded := b.succeeded || outcome == .returned none }

def step (cfg : Config) (queue : String) (b : Broker) : Action → Option Broker
  | .process k fresh outcome report accepted =>
    b.main[k]?.map fun msg =>
      Broker.settle msg outcome accepted (processMessage cfg queue msg fresh outcome report)
        { b with main := b.main.eraseIdx k }
  | .expire k headers =>
    b.waiting[k]?.map fun msg =>
      { b with
        main := b.main ++ [⟨some headers, msg.body⟩]
        waiting := b.waiting.eraseIdx k }

/-- Equal up to the type of an integer. -/
def HeaderValue.Same : HeaderValue → HeaderValue → Prop
  | .string s, v => v = .string s
  | .other text, v => v = .other text
  | .int n, v | .int32 n, v | .int64 n, v => v = .int n ∨ v = .int32 n ∨ v = .int64 n

def header (headers : Option Table) (key : String) : Option HeaderValue := headers.bind (· key)

/-- The headers that come back: those sent, and maybe some of the broker's own. -/
structure Carried (sent back : Option Table) : Prop where
  kept : ∀ key value, header sent key = some value →
    ∃ returned, header back key = some returned ∧ value.Same returned
  added : ∀ key, key = traceIDKey ∨ key = retryCountKey →
    header sent key = none → header back key = none

/-- What is assumed of the broker: it takes a copy whose publish succeeds, and a
retry queue returns its copies with their headers. -/
def Faithful (cfg : Config) (b : Broker) : Action → Prop
  | .process _ _ _ report accepted => retryError cfg report = none → accepted = true
  | .expire k headers => ∀ msg, b.waiting[k]? = some msg → Carried msg.headers (some headers)

/-- No publish of a retry copy fails. -/
def Publishes (cfg : Config) : Action → Prop
  | .process _ _ _ report _ => retryError cfg report = none
  | .expire _ _ => True

theorem getRetryCount_none {headers : Option Table} (hnone : header headers retryCountKey = none) :
    getRetryCount headers = 0 := by
  cases headers with
  | none => rfl
  | some table =>
    have htable : table retryCountKey = none := hnone
    simp [getRetryCount, htable]

theorem getRetryCount_same {sent back : Option Table} {value returned : HeaderValue}
    (hsent : header sent retryCountKey = some value)
    (hback : header back retryCountKey = some returned) (hsame : value.Same returned) :
    getRetryCount back = getRetryCount sent := by
  obtain ⟨sentTable, rfl, hsentTable⟩ := Option.bind_eq_some_iff.mp hsent
  obtain ⟨backTable, rfl, hbackTable⟩ := Option.bind_eq_some_iff.mp hback
  simp only [getRetryCount, hsentTable, hbackTable]
  cases value with
  | int n | int32 n | int64 n => obtain rfl | rfl | rfl := hsame <;> rfl
  | string s | other text => obtain rfl := hsame; rfl

/-- The count comes back, whatever integer type the wire gives it. -/
theorem getRetryCount_carried {sent back : Option Table} (h : Carried sent back) :
    getRetryCount back = getRetryCount sent := by
  cases hsent : header sent retryCountKey with
  | none =>
    have hback := h.added retryCountKey (.inr rfl) hsent
    rw [getRetryCount_none hsent, getRetryCount_none hback]
  | some value =>
    obtain ⟨returned, hback, hsame⟩ := h.kept _ _ hsent
    exact getRetryCount_same hsent hback hsame

/-- A retry is handled under the trace id of the delivery that it repeats. -/
theorem traceID_retried {queue fresh : String} {msg : Delivery} {err : HandlerError}
    {back : Option Table} (h : Carried (some (retryTask queue msg fresh err).headers) back)
    (later : String) :
    getTraceIDWorkerProcess back later = getTraceIDWorkerProcess msg.headers fresh := by
  have hsent : header (some (retryTask queue msg fresh err).headers) traceIDKey =
      some (.string (getTraceIDWorkerProcess msg.headers fresh)) := by
    simp [header, retryTask, handlerHeaders, traceIDKey, retryCountKey]
  obtain ⟨returned, hback, rfl⟩ := h.kept _ _ hsent
  obtain ⟨table, rfl, htable⟩ := Option.bind_eq_some_iff.mp hback
  simp [getTraceIDWorkerProcess, htable]

/-! ### No copy is lost -/

/-- The message was handled, or the broker holds a copy of it. -/
def Kept (body : Body) (b : Broker) : Prop :=
  b.succeeded = true ∨ ∃ msg ∈ b.main ++ b.waiting ++ b.deadLettered, msg.body = body

/-- What is in a queue is the copy taken and the copies left. -/
theorem taken_or_left {copies : List Delivery} {k : Nat} {msg other : Delivery}
    (hget : copies[k]? = some msg) (hmem : other ∈ copies) :
    other = msg ∨ other ∈ copies.eraseIdx k := by
  obtain ⟨hk, hmsg⟩ := List.getElem?_eq_some_iff.mp hget
  have hperm := List.getElem_cons_eraseIdx_perm hk
  have hcons : other ∈ copies[k] :: copies.eraseIdx k := hperm.mem_iff.mpr hmem
  rw [hmsg] at hcons
  exact List.mem_cons.mp hcons

/-- Disposing of `msg` loses no other copy. -/
theorem settle_keeps_other {cfg : Config} {queue fresh : String} {msg : Delivery}
    {outcome : HandlerOutcome} {report : PublishOutcome} {accepted : Bool} {b : Broker}
    {body : Body} (hkept : Kept body b) :
    Kept body (b.settle msg outcome accepted
      (processMessage cfg queue msg fresh outcome report)) := by
  have hcases := processMessage_cases cfg queue msg fresh outcome report
  generalize processMessage cfg queue msg fresh outcome report = effects at hcases ⊢
  unfold Kept at hkept ⊢
  cases hcases with
  | panicked | exhausted =>
    simp [Broker.settle, Broker.apply] at hkept ⊢
    grind
  | succeeded => simp [Broker.settle, Broker.apply]
  | requeued | retried =>
    cases accepted <;> simp [Broker.settle, Broker.apply] at hkept ⊢ <;> grind

/-- Nor the message of `msg` itself, when a published copy is a copy held. -/
theorem settle_keeps_own {cfg : Config} {queue fresh : String} {msg : Delivery}
    {outcome : HandlerOutcome} {report : PublishOutcome} {accepted : Bool} {b : Broker}
    (haccepted : retryError cfg report = none → accepted = true) :
    Kept msg.body (b.settle msg outcome accepted
      (processMessage cfg queue msg fresh outcome report)) := by
  have hcases := processMessage_cases cfg queue msg fresh outcome report
  generalize processMessage cfg queue msg fresh outcome report = effects at hcases ⊢
  unfold Kept
  cases hcases with
  | succeeded => exact .inl (by simp [Broker.settle, Broker.apply])
  | panicked | exhausted => exact .inr ⟨msg, by simp [Broker.settle, Broker.apply], rfl⟩
  | requeued err failure hbelow herror =>
    exact .inr ⟨msg, by cases accepted <;> simp [Broker.settle, Broker.apply], rfl⟩
  | retried err hbelow hnone =>
    have htaken := haccepted hnone
    refine .inr ⟨⟨some (retryTask queue msg fresh err).headers, msg.body⟩, ?_, rfl⟩
    simp [Broker.settle, Broker.apply, htaken, retryPublishing, retryTask]

theorem kept_step {cfg : Config} {queue : String} {body : Body} {b t : Broker} {a : Action}
    (hfaithful : Faithful cfg b a) (hstep : step cfg queue b a = some t)
    (hkept : Kept body b) : Kept body t := by
  cases a with
  | process k fresh outcome report accepted =>
    obtain ⟨msg, hget, rfl⟩ := Option.map_eq_some_iff.mp hstep
    obtain hdone | ⟨other, hmem, rfl⟩ := hkept
    · exact settle_keeps_other (.inl hdone)
    · simp only [List.mem_append, or_assoc] at hmem
      obtain hmain | helsewhere := hmem
      · obtain rfl | hleft := taken_or_left hget hmain
        · exact settle_keeps_own hfaithful
        · exact settle_keeps_other (.inr ⟨other, by simp [hleft], rfl⟩)
      · exact settle_keeps_other (.inr ⟨other, by simp [helsewhere], rfl⟩)
  | expire k headers =>
    obtain ⟨msg, hget, rfl⟩ := Option.map_eq_some_iff.mp hstep
    obtain hdone | ⟨other, hmem, rfl⟩ := hkept
    · exact .inl hdone
    · simp only [List.mem_append] at hmem
      obtain (hmain | hwaiting) | hdead := hmem
      · exact .inr ⟨other, by simp [hmain], rfl⟩
      · obtain rfl | hleft := taken_or_left hget hwaiting
        · exact .inr ⟨⟨some headers, other.body⟩, by simp, rfl⟩
        · exact .inr ⟨other, by simp [hleft], rfl⟩
      · exact .inr ⟨other, by simp [hdead], rfl⟩

/-- In every run the message is handled, or a copy of it can be found. -/
theorem kept_run {cfg : Config} {queue : String} {first : Delivery} {actions : List Action}
    {b : Broker} (hrun : Run (step cfg queue) (Faithful cfg) (firstPublished first) actions b) :
    Kept first.body b := by
  have hstart : Kept first.body (firstPublished first) :=
    .inr ⟨first, by simp [firstPublished], rfl⟩
  exact hrun.invariant hstart fun _ _ _ => kept_step

/-! ### How often the handler is called

While no publish fails there is one live copy at most, and its retry count is the
number of calls so far. -/

structure Lone (cfg : Config) (b : Broker) : Prop where
  single : b.main.length + b.waiting.length ≤ 1
  counted : ∀ msg ∈ b.main ++ b.waiting,
    getRetryCount msg.headers = b.invocations ∧ (b.invocations : Int) ≤ cfg.queueMaxRetries
  bounded : (b.invocations : Int) ≤ cfg.queueMaxRetries + 1

theorem lone_start {cfg : Config} {first : Delivery} (hmax : 0 ≤ cfg.queueMaxRetries)
    (hcount : header first.headers retryCountKey = none) : Lone cfg (firstPublished first) where
  single := by simp [firstPublished]
  counted := by
    intro msg hmem
    obtain rfl : msg = first := by simpa [firstPublished] using hmem
    simp [firstPublished, getRetryCount_none hcount, hmax]
  bounded := by simp only [firstPublished]; omega

/-- A copy taken from the only one there is leaves none. -/
theorem taken_single {copies : List Delivery} {k : Nat} {msg : Delivery}
    (hget : copies[k]? = some msg) (hsingle : copies.length ≤ 1) :
    copies = [msg] ∧ copies.eraseIdx k = [] := by
  obtain ⟨hk, hmsg⟩ := List.getElem?_eq_some_iff.mp hget
  obtain rfl : k = 0 := by omega
  cases copies with
  | nil => simp at hk
  | cons head rest =>
    have hrest : rest = [] := by simpa using hsingle
    simp_all

theorem lone_step {cfg : Config} {queue : String} {b t : Broker} {a : Action}
    (hfaithful : Faithful cfg b a) (hpublishes : Publishes cfg a)
    (hstep : step cfg queue b a = some t) (hlone : Lone cfg b) : Lone cfg t := by
  have hsingle := hlone.single
  cases a with
  | process k fresh outcome report accepted =>
    obtain ⟨msg, hget, rfl⟩ := Option.map_eq_some_iff.mp hstep
    obtain ⟨hmain, herase⟩ := taken_single hget (by omega)
    have hwaiting : b.waiting = [] := by
      rw [hmain, List.length_singleton] at hsingle
      exact List.length_eq_zero_iff.mp (by omega)
    obtain ⟨hcount, hle⟩ := hlone.counted msg (by simp [hmain])
    have hcases := processMessage_cases cfg queue msg fresh outcome report
    generalize processMessage cfg queue msg fresh outcome report = effects at hcases ⊢
    cases hcases with
    | panicked | succeeded | exhausted =>
      constructor <;> simp [Broker.settle, Broker.apply, herase, hwaiting]; omega
    | requeued err failure hbelow herror =>
      exact absurd (hpublishes.symm.trans herror) (by simp)
    | retried err hbelow hnone =>
      -- the copy counts this call too, and may still be handled once more
      constructor <;> cases accepted <;>
        simp [Broker.settle, Broker.apply, herase, hwaiting, retryPublishing, hcount] <;> omega
  | expire k headers =>
    obtain ⟨msg, hget, rfl⟩ := Option.map_eq_some_iff.mp hstep
    obtain ⟨hwaiting, herase⟩ := taken_single hget (by omega)
    have hmain : b.main = [] := by
      rw [hwaiting, List.length_singleton] at hsingle
      exact List.length_eq_zero_iff.mp (by omega)
    obtain ⟨hcount, hle⟩ := hlone.counted msg (by simp [hwaiting])
    have hback := getRetryCount_carried (hfaithful msg hget)
    constructor
    · simp [hmain, herase]
    · simp [hmain, herase, hback, hcount, hle]
    · exact hlone.bounded

/-- The runs in which every retry copy is published. -/
def AllPublished (cfg : Config) (b : Broker) (a : Action) : Prop := Faithful cfg b a ∧ Publishes cfg a

theorem lone_run {cfg : Config} {queue : String} {first : Delivery} {actions : List Action}
    {b : Broker} (hmax : 0 ≤ cfg.queueMaxRetries)
    (hcount : header first.headers retryCountKey = none)
    (hrun : Run (step cfg queue) (AllPublished cfg) (firstPublished first) actions b) :
    Lone cfg b :=
  hrun.invariant (lone_start hmax hcount) fun _ _ _ hguard hstep hlone =>
    lone_step hguard.1 hguard.2 hstep hlone

/-- Four calls of a handler that always fails: the default `QueueMaxRetries` allows no more. -/
def failing : List Action :=
  let process : Action := .process 0 "fresh" (.returned (some (.plain "down"))) {} true
  let expire (count : Int) : Action :=
    .expire 0 fun key =>
      if key = retryCountKey then some (.int32 count)
      else if key = traceIDKey then some (.string "fresh")
      else none
  [process, expire 1, process, expire 2, process, expire 3, process]

example : (exec (step {} queueOutgoingMessages) (firstPublished ⟨none, []⟩) failing).map
    (fun b => (b.invocations, b.main.length + b.waiting.length, b.deadLettered.length)) =
      some (4, 0, 1) := by
  decide +kernel

/-! ### Conservation -/

/-- `copy` is the retry of `msg`: its body and one retry more, routed to a retry queue of
the same queue. -/
structure RetryOf (queue : String) (msg : Delivery) (copy : Publishing) : Prop where
  body : copy.body = msg.body
  count : getRetryCount (some copy.headers) = getRetryCount msg.headers + 1
  routed : ∃ delay, copy.routingKey = (retryRoute queue delay).1

theorem retryOf_retryTask (queue : String) (msg : Delivery) (fresh : String)
    (err : HandlerError) :
    RetryOf queue msg (retryPublishing (retryTask queue msg fresh err)) where
  body := rfl
  count := getRetryCount_retryTask queue msg fresh err
  routed := ⟨retryDelay (getRetryCount msg.headers) err, rfl⟩

/-- What a worker of a main queue guarantees, for every delivery, every outcome and every
run of deliveries. -/
structure Conservation (cfg : Config) (queue : String) : Prop where
  oneDisposition : ∀ msg fresh outcome report, ∃ disposition,
    dispositions (processMessage cfg queue msg fresh outcome report) = [disposition]
  acked : ∀ msg fresh outcome report,
    .dispose .ack ∈ processMessage cfg queue msg fresh outcome report →
    outcome = .returned none ∨
      ∃ copy, .publish copy none ∈ processMessage cfg queue msg fresh outcome report ∧
        RetryOf queue msg copy ∧ report.publish = none ∧
        (cfg.rabbitMQPublishConfirm = true → report.confirm = .ok true)
  deadLettered : ∀ msg fresh outcome report,
    .dispose (.nack false) ∈ processMessage cfg queue msg fresh outcome report →
    cfg.queueMaxRetries ≤ getRetryCount msg.headers ∨ ∃ value, outcome = .panicked value
  invocations : ∀ first actions b, header first.headers retryCountKey = none →
    Run (step cfg queue) (AllPublished cfg) (firstPublished first) actions b →
    (b.invocations : Int) ≤ cfg.queueMaxRetries + 1
  neverLost : ∀ first actions b,
    Run (step cfg queue) (Faithful cfg) (firstPublished first) actions b → Kept first.body b

theorem acked_cases {cfg : Config} {queue fresh : String} {msg : Delivery}
    {outcome : HandlerOutcome} {report : PublishOutcome} {effects : List Effect}
    (hcases : Processed cfg queue msg fresh report outcome effects)
    (hack : .dispose .ack ∈ effects) :
    outcome = .returned none ∨
      ∃ copy, .publish copy none ∈ effects ∧ RetryOf queue msg copy ∧ report.publish = none ∧
        (cfg.rabbitMQPublishConfirm = true → report.confirm = .ok true) := by
  cases hcases with
  | succeeded => exact .inl rfl
  | panicked | exhausted | requeued => simp at hack
  | retried err hbelow hnone =>
    obtain ⟨hpublish, hconfirm⟩ := retryError_none hnone
    exact .inr ⟨_, by simp, retryOf_retryTask queue msg fresh err, hpublish, hconfirm⟩

theorem deadLettered_cases {cfg : Config} {queue fresh : String} {msg : Delivery}
    {outcome : HandlerOutcome} {report : PublishOutcome} {effects : List Effect}
    (hcases : Processed cfg queue msg fresh report outcome effects)
    (hnack : .dispose (.nack false) ∈ effects) :
    cfg.queueMaxRetries ≤ getRetryCount msg.headers ∨ ∃ value, outcome = .panicked value := by
  cases hcases with
  | panicked value => exact .inr ⟨value, rfl⟩
  | exhausted err hmax => exact .inl hmax
  | succeeded | requeued | retried => simp at hnack

theorem worker_conservation (cfg : Config) (queue : String) (hmax : 0 ≤ cfg.queueMaxRetries) :
    Conservation cfg queue where
  oneDisposition := by
    intro msg fresh outcome report
    have hcases := processMessage_cases cfg queue msg fresh outcome report
    generalize processMessage cfg queue msg fresh outcome report = effects at hcases ⊢
    cases hcases <;> exact ⟨_, rfl⟩
  acked msg fresh outcome report hack :=
    acked_cases (processMessage_cases cfg queue msg fresh outcome report) hack
  deadLettered msg fresh outcome report hnack :=
    deadLettered_cases (processMessage_cases cfg queue msg fresh outcome report) hnack
  invocations _ _ _ hcount hrun := (lone_run hmax hcount hrun).bounded
  neverLost _ _ _ hrun := kept_run hrun

theorem worker_conservation_default : Conservation {} queueOutgoingMessages :=
  worker_conservation {} queueOutgoingMessages (by decide)

end WhatsappGateway.WorkerPool
