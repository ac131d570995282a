import Mathlib.Logic.Function.Basic
import WhatsappGateway.Queue.Constants

/-!
The life of the worker pools of a queue connection. Three goroutines act on them:
the caller of `StartWorkers`, the connection monitor, which restarts the consumers
after a reconnect, and the caller of `Shutdown`. Their steps interleave; a step is
one read or write of the shared fields, one consumer started, or one stop channel
closed. Waiting for the workers of a group changes nothing here, so it is no step.

Closing a closed channel panics, and the process dies.
-/

namespace WhatsappGateway.RabbitMQ

open Queue

/-- A worker group, with the number of times its stop channel has been closed. -/
structure WorkerGroup where
  queueName : String
  closes : Nat := 0
deriving DecidableEq, Repr

abbrev WorkerPool := List WorkerGroup

/-- `startConsumers` in progress: the pool it builds and the queues without a consumer. -/
structure Start where
  fresh : Nat
  remaining : List String
deriving DecidableEq, Repr

/-- Where the connection monitor is. `old` is the pool that `restartConsumers` has read;
`remaining` are the groups of it whose stop channels are still to be closed. -/
inductive Monitor where
  | watching
  | reconnecting
  | restarting
  | stopping (old : Option Nat) (remaining : List Nat)
  | starting (old : Option Nat) (start : Start)
  | ended
deriving DecidableEq, Repr

/-- Where the caller of `StartWorkers` is. -/
inductive Starter where
  | idle
  | starting (start : Start)
deriving DecidableEq, Repr

/-- Where the caller of `Shutdown` is. -/
inductive Closer where
  | idle
  | signalled
  | stopping (pool : Nat) (remaining : List Nat)
  | closingConnection
  | finished
deriving DecidableEq, Repr

/-- The fields of `RabbitMQQueue` that matter here, the pools made so far by number, and
the goroutines. `stopCh` is closed exactly when `closing` is set. -/
structure State where
  closing : Bool := false
  handlers : List String := []
  workerPool : Option Nat := none
  pools : Nat → WorkerPool := fun _ => []
  made : Nat := 0
  crashed : Bool := false
  monitor : Monitor := .watching
  starter : Starter := .idle
  closer : Closer := .idle

/-- `NewRabbitMQQueue` has connected and started the monitor. -/
def init : State := {}

/-- The queues that `StartWorkers` registers a handler for. -/
def registrations (dlqHandler : Bool) : List String :=
  [queueIncomingEvents, queueWebhookDelivery, queueOutgoingMessages] ++
    if dlqHandler then [dlqIncomingEvents, dlqWebhookDelivery, dlqOutgoingMessages] else []

/-- Close the stop channel of a group. -/
def State.close (s : State) (pool group : Nat) : State :=
  { s with
    pools := Function.update s.pools pool
      ((s.pools pool).modify group fun g => { g with closes := g.closes + 1 })
    crashed := s.crashed || (s.pools pool)[group]?.any fun g => 0 < g.closes }

/-- The beginning of `startConsumers`: an empty pool, and the handlers to start. -/
def State.begin (s : State) : State × Start :=
  ({ s with pools := Function.update s.pools s.made [], made := s.made + 1 },
    ⟨s.made, s.handlers⟩)

/-- `StartWorkerGroup` on a pool that is being built. -/
def State.addGroup (s : State) (pool : Nat) (queueName : String) : State :=
  { s with pools := Function.update s.pools pool (s.pools pool ++ [{ queueName }]) }

/-- What `startConsumers` does next. The handlers come in any order: `group k` is the `k`th
of those that remain, and `ok` tells whether its consumer starts. -/
inductive StartStep where
  | group (k : Nat) (ok : Bool)
  | install
deriving DecidableEq, Repr

inductive StartResult where
  | going (start : Start)
  | failed
  | installed
deriving DecidableEq, Repr

def startConsumers (s : State) (start : Start) : StartStep → Option (State × StartResult)
  | .group k ok =>
    start.remaining[k]?.map fun queueName =>
      if ok then
        (s.addGroup start.fresh queueName, .going ⟨start.fresh, start.remaining.eraseIdx k⟩)
      else (s, .failed)
  | .install =>
    if start.remaining = [] then some ({ s with workerPool := some start.fresh }, .installed)
    else none

/-- One step of `WorkerPool.Shutdown`: the `k`th of the remaining groups. -/
def stopGroup (s : State) (pool : Nat) (remaining : List Nat) (k : Nat) :
    Option (State × List Nat) :=
  remaining[k]?.map fun group => (s.close pool group, remaining.eraseIdx k)

/-- The groups of a pool, by position. -/
def State.groups (s : State) (pool : Option Nat) : List Nat :=
  List.range ((pool.map s.pools).getD []).length

inductive Action where
  | startWorkers (dlqHandler : Bool)
  | starter (next : StartStep)
  | connectionClosed (err : Bool)
  | stopRequested
  | reconnect (ok : Bool)
  | restart
  | stopOld (k : Nat)
  | startNew
  | monitor (next : StartStep)
  | shutdown
  | readPool
  | stopPool (k : Nat)
  | finish
deriving DecidableEq, Repr

/-- The steps of the caller of `StartWorkers`, which may call it again. -/
def startWorkers (s : State) (dlqHandler : Bool) : Option State :=
  match s.starter with
  | .idle =>
    let (t, start) := { s with handlers := registrations dlqHandler }.begin
    some { t with starter := .starting start }
  | .starting _ => none

def starterStep (s : State) (next : StartStep) : Option State :=
  match s.starter with
  | .idle => none
  | .starting start =>
    (startConsumers s start next).map fun
      | (t, .going start) => { t with starter := .starting start }
      | (t, _) => { t with starter := .idle }

/-- `monitorConnection`, with the loops of `reconnectLoop` and `restartConsumers`. -/
def monitorStep (s : State) : Action → Option State
  | .connectionClosed err =>
    match s.monitor with
    | .watching => some { s with monitor := if err then .reconnecting else .ended }
    | _ => none
  | .stopRequested =>
    match s.monitor with
    | .watching | .reconnecting => if s.closing then some { s with monitor := .ended } else none
    | _ => none
  | .reconnect ok =>
    match s.monitor with
    | .reconnecting => some { s with monitor := if ok then .restarting else .reconnecting }
    | _ => none
  | .restart =>
    match s.monitor with
    | .restarting =>
      some { s with
        monitor :=
          if s.closing ∨ s.handlers = [] then .watching
          else .stopping s.workerPool (s.groups s.workerPool) }
    | _ => none
  | .stopOld k =>
    match s.monitor with
    | .stopping (some old) remaining =>
      (stopGroup s old remaining k).map fun (t, remaining) =>
        { t with monitor := .stopping (some old) remaining }
    | _ => none
  | .startNew =>
    match s.monitor with
    | .stopping old [] =>
      let (t, start) := s.begin
      some { t with monitor := .starting old start }
    | _ => none
  | .monitor next =>
    match s.monitor with
    | .starting old start =>
      (startConsumers s start next).map fun
        | (t, .going start) => { t with monitor := .starting old start }
        -- the old pool is still the installed one
        | (t, .failed) => { t with monitor := .reconnecting }
        | (t, .installed) => { t with monitor := .watching }
    | _ => none
  | _ => none

/-- The one call of `Shutdown`. -/
def closerStep (s : State) : Action → Option State
  | .shutdown =>
    match s.closer with
    | .idle => some { s with closing := true, closer := .signalled }
    | _ => none
  | .readPool =>
    match s.closer with
    | .signalled =>
      some { s with
        closer :=
          match s.workerPool with
          | some pool => .stopping pool (s.groups (some pool))
          | none => .closingConnection }
    | _ => none
  | .stopPool k =>
    match s.closer with
    | .stopping pool remaining =>
      (stopGroup s pool remaining k).map fun (t, remaining) =>
        { t with closer := .stopping pool remaining }
    | _ => none
  | .finish =>
    match s.closer with
    | .stopping _ [] | .closingConnection => some { s with closer := .finished }
    | _ => none
  | _ => none

/-- No goroutine takes a step after a panic. -/
def step (s : State) (a : Action) : Option State :=
  if s.crashed then none
  else
    match a with
    | .startWorkers dlqHandler => startWorkers s dlqHandler
    | .starter next => starterStep s next
    | .shutdown | .readPool | .stopPool _ | .finish => closerStep s a
    | _ => monitorStep s a

end WhatsappGateway.RabbitMQ
