import Mathlib.Logic.Function.Basic
import WhatsappGateway.Config
import WhatsappGateway.Queue.Constants

/-!
What a worker does with one delivery: it calls the handler and then disposes of
the delivery, after publishing a retry copy where the handler failed. The retry
count travels in a header, whose integer type changes on the wire.

The outcome of the handler and that of the publish come from outside. Log lines
and the timestamp of a copy are left out.
-/

namespace WhatsappGateway.WorkerPool

open Lib Queue

abbrev Body := List UInt8

/-- A value of a header table. Only `int`, `int32` and `int64` are read as a count. -/
inductive HeaderValue where
  | int (v : Int)
  | int32 (v : Int)
  | int64 (v : Int)
  | string (s : String)
  | other (text : String)
deriving DecidableEq, Repr

abbrev Table := String → Option HeaderValue

def traceIDKey : String := "x-trace-id"

def retryCountKey : String := "x-retry-count"

/-- A delivery: its headers, `none` for a nil table, and its body. -/
structure Delivery where
  headers : Option Table
  body : Body

structure Publishing where
  routingKey : String
  headers : Table
  body : Body
  deliveryMode : Nat
  expiration : String

/-- `amqp.Persistent`. -/
def persistent : Nat := 2

structure RetryTask where
  queue : String
  headers : Table
  body : Body
  delay : Int

/-- An error of the handler, told apart by whether it wraps a `RateLimitError`. -/
inductive HandlerError where
  | plain (err : String)
  | rateLimit (err : String) (retryAfter : Int)
deriving DecidableEq, Repr

inductive HandlerOutcome where
  | returned (err : Option HandlerError)
  | panicked (value : String)
deriving DecidableEq, Repr

/-- What the publish reports: its own error, and what waiting for the confirm
returns. -/
structure PublishOutcome where
  publish : Option String := none
  confirm : Except String Bool := .ok true

inductive Disposition where
  | ack
  | nack (requeue : Bool)
deriving DecidableEq, Repr

inductive Effect where
  | handle (body : Body) (headers : Table)
  | publish (copy : Publishing) (err : Option String)
  | dispose (disposition : Disposition)

def getRetryCount (headers : Option Table) : Int :=
  match headers with
  | none => 0
  | some headers =>
    match headers retryCountKey with
    | some (.int v) => v
    | some (.int32 v) => v
    | some (.int64 v) => v
    | _ => 0

/-- The trace id of a delivery; `fresh` is the new UUID it gets otherwise. -/
def getTraceIDWorkerProcess (headers : Option Table) (fresh : String) : String :=
  match headers with
  | none => fresh
  | some headers =>
    match headers traceIDKey with
    | some (.string traceID) => traceID
    | _ => fresh

def retryBackoff (retry : Int) : Int :=
  match retry with
  | 0 => 1 * Duration.second
  | 1 => 5 * Duration.second
  | 2 => 25 * Duration.second
  | _ => 25 * Duration.second

/-- The copy that `publishRetry` sends. -/
def retryPublishing (task : RetryTask) : Publishing :=
  let route := retryRoute task.queue task.delay
  { routingKey := route.1
    headers := task.headers
    body := task.body
    deliveryMode := persistent
    -- the tier queues have their delay as a TTL of the queue
    expiration := if route.2 then toString (Duration.milliseconds task.delay) else "" }

/-- The error that `publishRetry` returns. -/
def retryError (cfg : Config) (published : PublishOutcome) : Option String :=
  if cfg.rabbitMQPublishConfirm then
    match published.publish, published.confirm with
    | some err, _ => some err
    | none, .error err => some ("waiting for retry publish confirm: " ++ err)
    | none, .ok false => some "retry publish nacked by broker"
    | none, .ok true => none
  else published.publish

def publishRetry (cfg : Config) (task : RetryTask) (published : PublishOutcome) :
    Publishing × Option String :=
  (retryPublishing task, retryError cfg published)

/-- The delay before a retry: that of the rate limiter, else the backoff. -/
def retryDelay (retryCount : Int) : HandlerError → Int
  | .plain _ => retryBackoff retryCount
  | .rateLimit _ retryAfter => retryAfter

/-- The headers which the handler gets. -/
def handlerHeaders (msg : Delivery) (fresh : String) : Table :=
  Function.update (msg.headers.getD fun _ => none) traceIDKey
    (some (.string (getTraceIDWorkerProcess msg.headers fresh)))

def retryTask (queue : String) (msg : Delivery) (fresh : String) (err : HandlerError) :
    RetryTask where
  queue := queue
  headers := Function.update (handlerHeaders msg fresh) retryCountKey
    (some (.int (getRetryCount msg.headers + 1)))
  body := msg.body
  delay := retryDelay (getRetryCount msg.headers) err

/-- What `processMessage` does with a delivery. The count stays below
`QueueMaxRetries` where it is incremented, so the increment cannot overflow. -/
def processMessage (cfg : Config) (queue : String) (msg : Delivery) (fresh : String)
    (outcome : HandlerOutcome) (published : PublishOutcome) : List Effect :=
  .handle msg.body (handlerHeaders msg fresh) ::
    match outcome with
    -- the deferred recover: to the DLQ, through the queue's dead-letter exchange
    | .panicked _ => [.dispose (.nack false)]
    | .returned none => [.dispose .ack]
    | .returned (some err) =>
      if getRetryCount msg.headers ≥ cfg.queueMaxRetries then [.dispose (.nack false)]
      else
        match publishRetry cfg (retryTask queue msg fresh err) published with
        | (copy, some err) => [.publish copy (some err), .dispose (.nack true)]
        | (copy, none) => [.publish copy none, .dispose .ack]

/-- The dispositions among the effects. -/
def dispositions (effects : List Effect) : List Disposition :=
  effects.filterMap fun
    | .dispose disposition => some disposition
    | _ => none

/-! What one delivery comes to: one case for each path through `processMessage`. -/

inductive Processed (cfg : Config) (queue : String) (msg : Delivery) (fresh : String)
    (published : PublishOutcome) : HandlerOutcome → List Effect → Prop where
  | panicked (value : String) :
      Processed cfg queue msg fresh published (.panicked value)
        [.handle msg.body (handlerHeaders msg fresh), .dispose (.nack false)]
  | succeeded :
      Processed cfg queue msg fresh published (.returned none)
        [.handle msg.body (handlerHeaders msg fresh), .dispose .ack]
  | exhausted (err : HandlerError) :
      cfg.queueMaxRetries ≤ getRetryCount msg.headers →
      Processed cfg queue msg fresh published (.returned (some err))
        [.handle msg.body (handlerHeaders msg fresh), .dispose (.nack false)]
  | requeued (err : HandlerError) (failure : String) :
      getRetryCount msg.headers < cfg.queueMaxRetries →
      retryError cfg published = some failure →
      Processed cfg queue msg fresh published (.returned (some err))
        [.handle msg.body (handlerHeaders msg fresh),
          .publish (retryPublishing (retryTask queue msg fresh err)) (some failure),
          .dispose (.nack true)]
  | retried (err : HandlerError) :
      getRetryCount msg.headers < cfg.queueMaxRetries →
      retryError cfg published = none →
      Processed cfg queue msg fresh published (.returned (some err))
        [.handle msg.body (handlerHeaders msg fresh),
          .publish (retryPublishing (retryTask queue msg fresh err)) none,
          .dispose .ack]

theorem processMessage_cases (cfg : Config) (queue : String) (msg : Delivery)
    (fresh : String) (outcome : HandlerOutcome) (published : PublishOutcome) :
    Processed cfg queue msg fresh published outcome
      (processMessage cfg queue msg fresh outcome published) := by
  cases outcome with
  | panicked value => exact .panicked value
  | returned err =>
    cases err with
    | none => exact .succeeded
    | some err =>
      by_cases hmax : cfg.queueMaxRetries ≤ getRetryCount msg.headers
      · simpa only [processMessage, ge_iff_le, hmax, if_true] using .exhausted err hmax
      · have hbelow := Int.not_le.mp hmax
        cases herror : retryError cfg published with
        | none =>
          simpa only [processMessage, ge_iff_le, hmax, if_false, publishRetry, herror]
            using .retried err hbelow herror
        | some failure =>
          simpa only [processMessage, ge_iff_le, hmax, if_false, publishRetry, herror]
            using .requeued err failure hbelow herror

/-- A publish that reports no error was sent, and confirmed where confirms are on. -/
theorem retryError_none {cfg : Config} {published : PublishOutcome}
    (hnone : retryError cfg published = none) :
    published.publish = none ∧
      (cfg.rabbitMQPublishConfirm = true → published.confirm = .ok true) := by
  unfold retryError at hnone
  split at hnone
  · split at hnone <;> simp_all
  · simp_all

/-- The retry copy counts one more than the delivery it is a copy of. -/
@[simp] theorem getRetryCount_retryTask (queue : String) (msg : Delivery) (fresh : String)
    (err : HandlerError) :
    getRetryCount (some (retryTask queue msg fresh err).headers) =
      getRetryCount msg.headers + 1 := by
  simp [retryTask, getRetryCount]

/-- A copy goes to a retry queue with a TTL, or carries its own expiration. -/
theorem retryPublishing_expires (task : RetryTask) :
    (∃ tier ∈ retryTiers, task.delay ≤ tier ∧
      (retryPublishing task).routingKey = retryTierQueueName task.queue tier) ∨
    ((retryPublishing task).routingKey = retryLongQueueName task.queue ∧
      (retryPublishing task).expiration = toString (Duration.milliseconds task.delay)) := by
  unfold retryPublishing retryRoute
  cases hfind : retryTiers.find? (task.delay ≤ ·) with
  | some tier =>
    have hdelay : task.delay ≤ tier := by simpa using List.find?_some hfind
    exact .inl ⟨tier, List.mem_of_find?_eq_some hfind, hdelay, rfl⟩
  | none => exact .inr ⟨rfl, rfl⟩

end WhatsappGateway.WorkerPool
