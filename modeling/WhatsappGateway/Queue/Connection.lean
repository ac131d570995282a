import Mathlib.Logic.Function.Basic
import WhatsappGateway.Lib.Run

/-!
The life of the broker connection of a queue. The connection monitor watches the
connection, and when it fails it dials a new one, sets up its channels, installs it, and
restores the topology and the consumers. The caller of `Shutdown` signals the monitor,
stops the workers, and closes the connection that is installed. The broker may drop any
connection at any time. A step is one read or write of the shared fields, or one exchange
with the broker.
-/

namespace WhatsappGateway.RabbitMQ.Connection

open Lib

/-- A connection that is not alive has failed, or the queue itself has closed it. -/
inductive Link where
  | alive
  | failed
  | closed
deriving DecidableEq, Repr

/-- Where the connection monitor is. `watching` is its own select, `waiting` that of
`reconnectLoop`; from `closingOld` to `ready` it is in `connect`. -/
inductive Monitor where
  | entering
  | watching (conn : Nat)
  | lost
  | waiting
  | closingOld
  | dialing
  | opened (conn : Nat)
  | ready (conn : Nat)
  | topology
  | restored
  | restarting
  | starting
  | ended
deriving DecidableEq, Repr

/-- The connection that the monitor has dialed and not yet installed. -/
def Monitor.pending : Monitor → Option Nat
  | .opened conn | .ready conn => some conn
  | _ => none

/-- `connect` has closed the connection that is installed. -/
def Monitor.parted : Monitor → Bool
  | .dialing | .opened _ | .ready _ => true
  | _ => false

/-- Where the caller of `Shutdown` is. -/
inductive Closer where
  | idle
  | signalled
  | closingConnection
  | finished
deriving DecidableEq, Repr

/-- The connections are numbered in the order in which they are dialed. `closing` is set
exactly when `stopCh` is closed. -/
structure State where
  conn : Option Nat
  links : Nat → Link
  dialed : Nat
  healthy : Bool
  closing : Bool
  monitor : Monitor
  closer : Closer

/-- `NewRabbitMQQueue` has connected and started the monitor. -/
def init : State where
  conn := some 0
  links := Function.update (fun _ => .closed) 0 .alive
  dialed := 1
  healthy := true
  closing := false
  monitor := .entering
  closer := .idle

/-- Close a connection. One that is not alive stays as it is. -/
def close (links : Nat → Link) (conn : Nat) : Nat → Link :=
  if links conn = .alive then Function.update links conn .closed else links

/-- Close the connection that is installed. -/
def State.closeInstalled (s : State) : State :=
  { s with links := s.conn.elim s.links (close s.links) }

inductive Action where
  | dropped (conn : Nat)
  | watch
  | stopRequested
  | notified
  | markUnhealthy
  | timer
  | closeOld
  | dial (ok : Bool)
  | prepare (ok : Bool)
  | install
  | setupTopology (ok : Bool)
  | markHealthy
  | restartConsumers
  | startConsumers (ok : Bool)
  | shutdown
  | stopWorkers
  | finish
deriving DecidableEq, Repr

/-- `monitorConnection`, `reconnectLoop`, `connect` and `restartConsumers`. -/
def monitorStep (s : State) : Action → Option State
  | .watch =>
    match s.monitor, s.conn with
    | .entering, none => some { s with monitor := .ended }
    | .entering, some conn =>
      -- the notification of a connection that is closed already carries no error
      some { s with monitor := if s.links conn = .alive then .watching conn else .ended }
    | _, _ => none
  | .stopRequested =>
    match s.monitor with
    | .watching _ | .waiting => if s.closing then some { s with monitor := .ended } else none
    | _ => none
  | .notified =>
    match s.monitor with
    | .watching conn =>
      match s.links conn with
      | .alive => none
      | .failed => some { s with monitor := .lost }
      | .closed => some { s with monitor := .ended }
    | _ => none
  | .markUnhealthy =>
    match s.monitor with
    | .lost => some { s with healthy := false, monitor := .waiting }
    | _ => none
  | .timer =>
    -- chosen also when `stopCh` is ready
    match s.monitor with
    | .waiting => some { s with monitor := .closingOld }
    | _ => none
  | .closeOld =>
    match s.monitor with
    | .closingOld => some { s.closeInstalled with monitor := .dialing }
    | _ => none
  | .dial ok =>
    match s.monitor with
    | .dialing =>
      if ok then
        some { s with
          links := Function.update s.links s.dialed .alive
          dialed := s.dialed + 1
          monitor := .opened s.dialed }
      else some { s with monitor := .waiting }
    | _ => none
  | .prepare ok =>
    match s.monitor with
    | .opened conn =>
      if ok then some { s with monitor := .ready conn }
      else some { s with links := close s.links conn, monitor := .waiting }
    | _ => none
  | .install =>
    match s.monitor with
    | .ready conn => some { s with conn := some conn, monitor := .topology }
    | _ => none
  | .setupTopology ok =>
    match s.monitor with
    | .topology => some { s with monitor := if ok then .restored else .waiting }
    | _ => none
  | .markHealthy =>
    match s.monitor with
    | .restored => some { s with healthy := true, monitor := .restarting }
    | _ => none
  | .restartConsumers =>
    match s.monitor with
    | .restarting => some { s with monitor := if s.closing then .entering else .starting }
    | _ => none
  | .startConsumers ok =>
    match s.monitor with
    | .starting => some { s with monitor := if ok then .entering else .lost }
    | _ => none
  | _ => none

/-- The call of `Shutdown`. Its last section holds the lock. -/
def closerStep (s : State) : Action → Option State
  | .shutdown =>
    match s.closer with
    | .idle => some { s with closing := true, closer := .signalled }
    | _ => none
  | .stopWorkers =>
    match s.closer with
    | .signalled => some { s with closer := .closingConnection }
    | _ => none
  | .finish =>
    match s.closer with
    | .closingConnection =>
      some { s.closeInstalled with healthy := false, closer := .finished }
    | _ => none
  | _ => none

def step (s : State) (a : Action) : Option State :=
  match a with
  | .dropped conn =>
    if s.links conn = .alive then
      some { s with links := Function.update s.links conn .failed }
    else none
  | .shutdown | .stopWorkers | .finish => closerStep s a
  | _ => monitorStep s a

/-- `Shutdown` is terminal: once it has returned, the queue is not healthy and none of its
connections is open. -/
def Terminal (s : State) : Prop :=
  s.closer = .finished → s.healthy = false ∧ ∀ conn, s.links conn ≠ .alive

/-- The steps that keep it so. The last section of `Shutdown` does not run while a dialed
connection waits to be installed, and after it no dial succeeds and nothing is marked
healthy. -/
def Orderly (s : State) : Action → Prop
  | .finish => ∀ conn ∈ s.monitor.pending, s.links conn ≠ .alive
  | .dial ok => ok = true → s.closer ≠ .finished
  | .markHealthy => s.closer ≠ .finished
  | _ => True

instance (s : State) : (a : Action) → Decidable (Orderly s a)
  | .finish => inferInstanceAs (Decidable (∀ conn ∈ s.monitor.pending, s.links conn ≠ .alive))
  | .dial ok => inferInstanceAs (Decidable (ok = true → s.closer ≠ .finished))
  | .markHealthy => inferInstanceAs (Decidable (s.closer ≠ .finished))
  | .dropped _ | .watch | .stopRequested | .notified | .markUnhealthy | .timer | .closeOld
  | .prepare _ | .install | .setupTopology _ | .restartConsumers | .startConsumers _ | .shutdown
  | .stopWorkers => inferInstanceAs (Decidable True)

end WhatsappGateway.RabbitMQ.Connection
