import Mathlib.Logic.Function.Basic
import WhatsappGateway.Config

/-!
The persisted status of an account, and the lifecycle events that write it. There is
one row for each phone number, and every write replaces the whole row. The status
tells the pacer whether the account is banned.
-/

namespace WhatsappGateway.Whatsapp

open Lib

structure SessionStatus where
  state : String
  reason : String := ""
  banExpiresAt : Option Int := none
  updatedAt : Int
deriving DecidableEq, Repr

/-- The `session_status` table, by phone number. -/
abbrev StatusTable := String → Option SessionStatus

/-- The event types of the session webhooks. -/
inductive SessionEvent where
  | loggedOut
  | banned
  | connectFailure
  | connected
  | disconnected
  | replaced
  | reachoutTimelocked
deriving DecidableEq, Repr

def SessionEvent.name : SessionEvent → String
  | .loggedOut => "session.logged_out"
  | .banned => "session.banned"
  | .connectFailure => "session.connect_failure"
  | .connected => "session.connected"
  | .disconnected => "session.disconnected"
  | .replaced => "session.replaced"
  | .reachoutTimelocked => "session.reachout_timelocked"

/-- The events of the client library. `loggedOut` of a connect failure is what the
library's `IsLoggedOut` says of its reason; the texts are those it renders. -/
inductive Event where
  | message
  | loggedOut (onConnect : Bool) (reason : String)
  | temporaryBan (expire : Int) (text : String)
  | connectFailure (loggedOut : Bool) (reason : String)
  | streamReplaced
  | reachoutTimelock (isActive : Bool) (enforcementType : String) (enforcementEnds : Option Int)
  | connected
  | disconnected
deriving DecidableEq, Repr

/-- What `HandleEvent` does for a lifecycle event. -/
inductive Effect where
  | recordSessionStatus (state reason : String) (banExpiresAt : Option Int)
  | evict
  | dispatch (event : SessionEvent)
deriving DecidableEq, Repr

def loggedOutReason (onConnect : Bool) (reason : String) : String :=
  if onConnect then reason else "stream_error"

def reachoutTimelockReason (enforcementType : String) : String :=
  if enforcementType = "" then "reachout_timelock" else "reachout_timelock:" ++ enforcementType

/-- The lifecycle branches of `HandleEvent`; an incoming message touches no status. -/
def handleEvent (now : Int) : Event → List Effect
  | .message => []
  | .loggedOut onConnect reason =>
    [.recordSessionStatus "logged_out" (loggedOutReason onConnect reason) none, .evict,
      .dispatch .loggedOut]
  | .temporaryBan expire text =>
    let exp := if expire > 0 then some (now + expire) else none
    [.recordSessionStatus "banned" text exp, .evict, .dispatch .banned]
  | .connectFailure loggedOut reason =>
    if loggedOut then
      [.recordSessionStatus "logged_out" reason none, .evict, .dispatch .connectFailure]
    else
      -- not evicted, so that the client may reconnect by itself
      [.recordSessionStatus "disconnected" ("connect_failure:" ++ reason) none,
        .dispatch .connectFailure]
  | .streamReplaced =>
    [.recordSessionStatus "disconnected" "stream_replaced" none, .evict, .dispatch .replaced]
  | .reachoutTimelock isActive enforcementType enforcementEnds =>
    if isActive then
      [.recordSessionStatus "reachout_timelocked" (reachoutTimelockReason enforcementType)
        enforcementEnds, .dispatch .reachoutTimelocked]
    else
      [.recordSessionStatus "connected" "reachout_timelock_cleared" none,
        .dispatch .reachoutTimelocked]
  | .connected => [.dispatch .connected]
  | .disconnected => [.dispatch .disconnected]

/-- The upsert of a row, at the instant `now`. -/
def upsertSessionStatus (table : StatusTable) (phone state reason : String)
    (banExpiresAt : Option Int) (now : Int) : StatusTable :=
  Function.update table phone (some ⟨state, reason, banExpiresAt, now⟩)

/-- One call of `HandleEvent`: the instants at which it reads the clock, and whether its
upsert reaches the table. An error of the upsert is only logged. -/
structure Handled where
  phoneNumber : String
  event : Event
  handledAt : Int
  updatedAt : Int
  persisted : Bool := true
deriving DecidableEq, Repr

/-- What an effect does to the table. -/
def applyEffect (h : Handled) (table : StatusTable) : Effect → StatusTable
  | .recordSessionStatus state reason banExpiresAt =>
    if h.persisted then
      upsertSessionStatus table h.phoneNumber state reason banExpiresAt h.updatedAt
    else table
  | .evict | .dispatch _ => table

def handle (table : StatusTable) (h : Handled) : StatusTable :=
  (handleEvent h.handledAt h.event).foldl (applyEffect h) table

/-- A run of events, each handled after the one before. -/
def handleAll (table : StatusTable) (events : List Handled) : StatusTable :=
  events.foldl handle table

/-- Reading a row may fail. -/
def getSessionStatus (table : StatusTable) (phone : String) (err : Option String) :
    Except String (Option SessionStatus) :=
  match err with
  | some err => .error err
  | none => .ok (table phone)

/-- Until when a row bans the account. A ban without an expiry is held for the default
time from when it was recorded. -/
def SessionStatus.banUntil (cfg : Config) (s : SessionStatus) : Int :=
  match s.banExpiresAt with
  | some banExpiresAt => banExpiresAt
  | none => s.updatedAt + Duration.seconds cfg.outboundPaceBanDefaultHoldSeconds

/-- The end of the account's ban, when it is banned. An unreadable status bans nobody. -/
def banState (cfg : Config) (read : Except String (Option SessionStatus)) (now : Int) :
    Option Int :=
  match read with
  | .error _ => none
  | .ok none => none
  | .ok (some s) =>
    if s.state ≠ "banned" then none
    else if s.banUntil cfg > now then some (s.banUntil cfg)
    else none

end WhatsappGateway.Whatsapp
