import Mathlib.Logic.Function.Basic
import WhatsappGateway.Config

/-!
The send idempotency middleware. It deduplicates mutating requests that carry
an Idempotency-Key header through the table `idempotency_keys`, whose primary
key is (phone number, key). The table is shared by all requests in flight, and
each SQL statement is one atomic step of one request; so is each reading of the
clock. Between two steps of a request any other request, the sweeper and the
clock may move.

The handler behind the middleware is part of the environment: `c.Next()` is
entered in one step and returns, with any result, in a later one.
-/

namespace WhatsappGateway.Idempotency

open Lib

/-- The primary key of `idempotency_keys`. -/
structure Key where
  phoneNumber : String
  idempotencyKey : String
deriving DecidableEq, Repr

inductive RowStatus where
  | pending
  | completed
deriving DecidableEq, Repr

/-- One row of `idempotency_keys`; the two response columns are NULL until the
row is completed. -/
structure Row where
  requestHash : String
  status : RowStatus
  httpStatus : Option Int
  responseBody : Option String
  createdAt : Int
deriving DecidableEq, Repr

abbrev Table := Key → Option Row

/-- What `get` reads: `idempotencyRecord`, where a NULL column has become the
zero value. -/
structure IdempotencyRecord where
  requestHash : String
  status : RowStatus
  httpStatus : Int
  responseBody : String
  createdAt : Int
deriving DecidableEq, Repr

/-- The record which `get` scans out of a row. -/
def Row.scan (row : Row) : IdempotencyRecord where
  requestHash := row.requestHash
  status := row.status
  httpStatus := row.httpStatus.getD 0
  responseBody := row.responseBody.getD ""
  createdAt := row.createdAt

/-- The row which `tryInsertPending` inserts. -/
def pendingRow (hash : String) (createdAt : Int) : Row :=
  ⟨hash, .pending, none, none, createdAt⟩

/-- INSERT .. ON CONFLICT DO NOTHING, with whether a row was inserted. -/
def tryInsertPending (table : Table) (key : Key) (hash : String) (createdAt : Int) :
    Table × Bool :=
  match table key with
  | some _ => (table, false)
  | none => (Function.update table key (some (pendingRow hash createdAt)), true)

def get (table : Table) (key : Key) : Option IdempotencyRecord :=
  (table key).map Row.scan

/-- The UPDATE of `complete` sets three columns and keeps the others. -/
def Row.complete (httpStatus : Int) (body : String) (row : Row) : Row :=
  { row with status := .completed, httpStatus := some httpStatus, responseBody := some body }

/-- UPDATE .. WHERE (phone, key): no effect when the row is absent. -/
def complete (table : Table) (key : Key) (httpStatus : Int) (body : String) : Table :=
  Function.update table key ((table key).map (Row.complete httpStatus body))

def delete (table : Table) (key : Key) : Table :=
  Function.update table key none

/-- DELETE .. WHERE created_at < cutoff. -/
def sweep (table : Table) (cutoff : Int) : Table :=
  fun key => (table key).filter fun row => !decide (row.createdAt < cutoff)

/-- The middleware's two configured durations, in nanoseconds, both positive. -/
structure IdempotencyMiddleware where
  ttl : Int
  pendingTimeout : Int
  ttl_pos : 0 < ttl
  pendingTimeout_pos : 0 < pendingTimeout

/-- A configured number of seconds, or the fallback when it is not positive. -/
def positiveOr (fallback configured : Int) : Int :=
  if configured ≤ 0 then fallback else configured

theorem positiveOr_pos {fallback : Int} (configured : Int) (h : 0 < fallback) :
    0 < positiveOr fallback configured := by
  unfold positiveOr
  split <;> omega

def newIdempotencyMiddleware (cfg : Config) : IdempotencyMiddleware where
  ttl := positiveOr (24 * 3600 * Duration.second) (Duration.seconds cfg.idempotencyTTLSeconds)
  pendingTimeout :=
    positiveOr (30 * Duration.second) (Duration.seconds cfg.idempotencyPendingTimeoutSeconds)
  ttl_pos := positiveOr_pos _ (by decide)
  pendingTimeout_pos := positiveOr_pos _ (by decide)

/-- What the middleware reads of an HTTP request. -/
structure HttpRequest where
  method : String
  path : String
  body : String
  idempotencyKey : String
  phoneNumber : Option String
deriving DecidableEq, Repr

def isBlank (c : Char) : Bool := c == ' ' || c == '\t'

/-- Strip blanks and tabs, first in front and then at the end. -/
def trimHeader (s : String) : String :=
  String.ofList ((s.toList.dropWhile isBlank).reverse.dropWhile isBlank).reverse

/-- The digest is a parameter: hashes are compared, never bodies. -/
def requestHash (sha256Hex : String → String) (c : HttpRequest) : String :=
  sha256Hex (c.method ++ "\n" ++ c.path ++ "\n" ++ c.body)

/-- A request as the rest of the middleware sees it. -/
structure Request where
  key : Key
  hash : String
deriving DecidableEq, Repr

/-- The first lines of `Handler`: `none` when the request passes to the handler
without deduplication (no key, a GET, or no phone number on the context). -/
def handlerKey (sha256Hex : String → String) (c : HttpRequest) : Option Request :=
  let key := trimHeader c.idempotencyKey
  if key = "" ∨ c.method = "GET" then none
  else match c.phoneNumber with
    | none => none
    | some phoneNumber =>
      if phoneNumber = "" then none
      else some ⟨⟨phoneNumber, key⟩, requestHash sha256Hex c⟩

/-- What `c.Next()` leaves: an error, or a response on the context. -/
inductive HandlerResult where
  | failed (error : String)
  | answered (status : Int) (body : String)
deriving DecidableEq, Repr

/-- The test of `runAndRecord` that decides between `complete` and `delete`. -/
def HandlerResult.is2xx : HandlerResult → Bool
  | .failed _ => false
  | .answered status _ => decide (status ≥ 200 ∧ status < 300)

/-- How the middleware answers a keyed request. -/
inductive Reply where
  | handled (result : HandlerResult)
  | replayed (status : Int) (body : String)
  | rejected (status : Int) (error : String)
deriving DecidableEq, Repr

def reusedKey : Reply :=
  .rejected 422 "Idempotency-Key was reused with a different request body"

def inProgress : Reply :=
  .rejected 409 "a request with this Idempotency-Key is already in progress"

/-- The point a keyed request has reached. -/
inductive Phase where
  /-- before `time.Now()` in `tryInsertPending` -/
  | arrived
  /-- before the INSERT -/
  | inserting (createdAt : Int)
  /-- the INSERT met a row; before `get` -/
  | conflicted
  /-- before the TTL test of `replayOrReject` -/
  | loaded (rec : IdempotencyRecord)
  /-- before the hash and status tests -/
  | unexpired (rec : IdempotencyRecord)
  /-- before `delete` on a row found expired or abandoned -/
  | deleting
  /-- inside `c.Next()` since an instant; `owner` in `runAndRecord` -/
  | running (owner : Bool) (since : Int)
  /-- in `runAndRecord`, before `complete` or `delete` -/
  | recording (result : HandlerResult)
  | done (reply : Reply)
  | crashed
deriving DecidableEq, Repr

structure Flight where
  request : Request
  phase : Phase
deriving DecidableEq, Repr

structure State where
  now : Int
  table : Table
  flights : Nat → Option Flight

/-- How one SQL statement ends. A failed statement may have been applied. -/
inductive DbOutcome where
  | ok
  | failed (applied : Bool)
deriving DecidableEq, Repr

/-- The table after a statement whose effect is `run`. -/
def DbOutcome.apply (run : Table → Table) (table : Table) : DbOutcome → Table
  | .ok => run table
  | .failed applied => if applied then run table else table

/-- One step of a keyed request, with what the environment contributes. -/
inductive Move where
  | stamp
  | insert (db : DbOutcome)
  | get (db : DbOutcome)
  | testExpired
  | judge
  | takeOver (db : DbOutcome)
  | next (result : HandlerResult)
  | record (db : DbOutcome)
deriving DecidableEq, Repr

/-- `replayOrReject` after the TTL test. -/
def judge (m : IdempotencyMiddleware) (now : Int) (hash : String)
    (rec : IdempotencyRecord) : Phase :=
  if rec.requestHash ≠ hash then .done reusedKey
  else if rec.status = .pending then
    if now - rec.createdAt > m.pendingTimeout then .deleting else .done inProgress
  else .done (.replayed rec.httpStatus rec.responseBody)

/-- The statement of `runAndRecord` after `c.Next()`. -/
def recordResult (key : Key) (result : HandlerResult) (table : Table) : Table :=
  match result with
  | .failed _ => delete table key
  | .answered status body =>
    if status ≥ 200 ∧ status < 300 then complete table key status body else delete table key

/-- One step of one keyed request. Every error of the database before the
handler makes the request proceed without deduplication. -/
def advance (m : IdempotencyMiddleware) (now : Int) (table : Table) (req : Request) :
    Phase → Move → Option (Table × Phase)
  | .arrived, .stamp => some (table, .inserting now)
  | .inserting createdAt, .insert .ok =>
    match tryInsertPending table req.key req.hash createdAt with
    | (table', true) => some (table', .running true now)
    | (table', false) => some (table', .conflicted)
  | .inserting createdAt, .insert (.failed applied) =>
    some (DbOutcome.apply (fun t => (tryInsertPending t req.key req.hash createdAt).1) table
      (.failed applied), .running false now)
  | .conflicted, .get .ok =>
    match get table req.key with
    | none => some (table, .running false now)
    | some rec => some (table, .loaded rec)
  | .conflicted, .get (.failed _) => some (table, .running false now)
  | .loaded rec, .testExpired =>
    some (table, if now - rec.createdAt > m.ttl then .deleting else .unexpired rec)
  | .unexpired rec, .judge => some (table, judge m now req.hash rec)
  | .deleting, .takeOver db =>
    some (db.apply (fun t => delete t req.key) table, .running false now)
  | .running owner _, .next result =>
    some (table, if owner then .recording result else .done (.handled result))
  | .recording result, .record db =>
    some (db.apply (recordResult req.key result) table, .done (.handled result))
  | _, _ => none

inductive Action where
  | tick (d : Int)
  | arrive (i : Nat) (c : HttpRequest)
  | move (i : Nat) (mv : Move)
  /-- the process serving request `i` dies, or its handler panics -/
  | crash (i : Nat)
  /-- a sweeper's DELETE; it read the clock at some earlier instant -/
  | sweep (cutoff : Int)
deriving DecidableEq, Repr

def State.put (s : State) (i : Nat) (f : Flight) : State :=
  { s with flights := Function.update s.flights i (some f) }

def step (m : IdempotencyMiddleware) (sha256Hex : String → String) (s : State) :
    Action → Option State
  | .tick d => if 0 ≤ d then some { s with now := s.now + d } else none
  | .arrive i c =>
    match s.flights i, handlerKey sha256Hex c with
    | none, some req => some (s.put i ⟨req, .arrived⟩)
    | _, _ => none
  | .move i mv =>
    match s.flights i with
    | none => none
    | some f =>
      match advance m s.now s.table f.request f.phase mv with
      | none => none
      | some (table, phase) => some (({ s with table := table } : State).put i ⟨f.request, phase⟩)
  | .crash i =>
    match s.flights i with
    | some ⟨_, .done _⟩ => none
    | some f => some (s.put i ⟨f.request, .crashed⟩)
    | none => none
  | .sweep cutoff =>
    if cutoff ≤ s.now - m.ttl then some { s with table := sweep s.table cutoff } else none

/-- No row and no request in flight. -/
def init (now : Int) : State where
  now := now
  table := fun _ => none
  flights := fun _ => none

end WhatsappGateway.Idempotency
