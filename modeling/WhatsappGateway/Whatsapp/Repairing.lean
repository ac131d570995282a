import Mathlib.Data.List.Induction
import WhatsappGateway.Whatsapp.SessionInventory

/-!
What the inventory says of an account that is paired again after a logout. The status row
outlives the device, and only some events write it: the one that reports the new
connection does not. So the account is reported by the last event that did.
-/

namespace WhatsappGateway.Whatsapp

open Lib

instance (phone : String) (h : Handled) : Decidable (Overwrites phone h) :=
  inferInstanceAs (Decidable (_ ∧ _ ∧ _))

/-- The last event of a run that wrote the row of the account. -/
def lastWrite (phone : String) (events : List Handled) : Option Handled :=
  events.reverse.find? (Overwrites phone ·)

/-- The event records a session that is dead at the instant `now`: a logout, or a ban which
has not expired. -/
def Handled.recordsDead (h : Handled) (now : Int) : Bool :=
  match h.event with
  | .temporaryBan expire _ => expire ≤ 0 || h.handledAt + expire > now
  | event => event.isLogout

section Row

variable {phone : String} {table : StatusTable} {h : Handled} {now : Int}

/-- The row that an event leaves says what the event records. -/
theorem handle_records (hwrites : Overwrites phone h) :
    ∃ st, handle table h phone = some st ∧ st.dead now = h.recordsDead now := by
  obtain ⟨rfl, hwrites, hpersisted⟩ := hwrites
  cases hevent : h.event with
  | message | connected | disconnected => simp [hevent, Event.writesStatus] at hwrites
  | loggedOut | streamReplaced =>
    simp [handle, hevent, handleEvent, applyEffect, hpersisted, upsertSessionStatus,
      Handled.recordsDead, SessionStatus.dead, SessionStatus.banUnexpired, Event.isLogout]
  | temporaryBan expire text =>
    by_cases hexpire : expire > 0
    · simp [handle, hevent, handleEvent, applyEffect, hpersisted, upsertSessionStatus,
        Handled.recordsDead, SessionStatus.dead, SessionStatus.banUnexpired, hexpire]
    · simp [handle, hevent, handleEvent, applyEffect, hpersisted, upsertSessionStatus,
        Handled.recordsDead, SessionStatus.dead, SessionStatus.banUnexpired, hexpire]
      omega
  | connectFailure isLoggedOut reason =>
    cases isLoggedOut <;>
      simp [handle, hevent, handleEvent, applyEffect, hpersisted, upsertSessionStatus,
        Handled.recordsDead, SessionStatus.dead, SessionStatus.banUnexpired, Event.isLogout]
  | reachoutTimelock isActive =>
    cases isActive <;>
      simp [handle, hevent, handleEvent, applyEffect, hpersisted, upsertSessionStatus,
        Handled.recordsDead, SessionStatus.dead, SessionStatus.banUnexpired, Event.isLogout]

end Row

/-- The row of the account is that of a dead session at the instant `now`. -/
def DeadRow (table : StatusTable) (phone : String) (now : Int) : Prop :=
  ∃ st, table phone = some st ∧ st.dead now = true

/-- After a run, a session was recorded as dead: by the last event that wrote the row, or
before the run when none did. -/
def RecordedDead (table : StatusTable) (phone : String) (events : List Handled) (now : Int) :
    Prop :=
  match lastWrite phone events with
  | some h => h.recordsDead now = true
  | none => DeadRow table phone now

theorem lastWrite_concat (phone : String) (events : List Handled) (h : Handled) :
    lastWrite phone (events ++ [h]) =
      if Overwrites phone h then some h else lastWrite phone events := by
  unfold lastWrite
  rw [List.reverse_append, List.reverse_singleton, List.singleton_append, List.find?_cons]
  split <;> simp_all

theorem handleAll_deadRow_iff (table : StatusTable) (phone : String) (events : List Handled)
    (now : Int) :
    DeadRow (handleAll table events) phone now ↔ RecordedDead table phone events now := by
  induction events using List.reverseRecOn with
  | nil => rfl
  | append_singleton events h ih =>
    have hlast : handleAll table (events ++ [h]) = handle (handleAll table events) h := by
      simp [handleAll]
    unfold RecordedDead
    rw [hlast, lastWrite_concat]
    by_cases hwrites : Overwrites phone h
    · obtain ⟨st, hrow, hdead⟩ := @handle_records phone (handleAll table events) h now hwrites
      simp [DeadRow, hrow, hdead, hwrites]
    · rw [if_neg hwrites]
      unfold DeadRow
      rw [handle_keeps hwrites]
      exact ih

/-- A client that is paired, connected and logged in. -/
def liveClient : ClientState where
  paired := true
  connected := true
  loggedIn := true

/-- A live client is reported as connected unless its row is that of a dead session. -/
theorem deriveItem_connected_iff (phone : String) (inMem : String → Option ClientState)
    (devices : String → Option Int) (status : StatusTable) (now : Int) :
    (deriveItem phone (Function.update inMem phone (some liveClient)) devices status
        now).state = "connected" ↔ ¬ DeadRow status phone now := by
  constructor
  · rintro hstate ⟨st, hrow, hdead⟩
    rw [deriveItem_dead hrow hdead] at hstate
    simp [SessionStatus.dead, SessionStatus.banUnexpired, hstate] at hdead
  · intro halive
    apply (deriveItem_live (Function.update_self _ _ _) _).trans
    · rfl
    · intro st hrow
      by_contra hdead
      exact halive ⟨st, hrow, by simpa using hdead⟩

/-- A run in which the account is logged out, paired again, and connected at the end.
`HandleEvent` has no branch for the pairing itself, so it shows in the connection only. -/
structure Repairing where
  phoneNumber : String
  before : List Handled
  logout : Handled
  between : List Handled
  connected : Handled
  logout_phone : logout.phoneNumber = phoneNumber
  logout_event : logout.event.isLogout = true
  connected_phone : connected.phoneNumber = phoneNumber
  connected_event : connected.event = .connected

namespace Repairing

def events (r : Repairing) : List Handled :=
  r.before ++ r.logout :: r.between ++ [r.connected]

/-- The state that the inventory reports after the run, with a live client. -/
def reported (r : Repairing) (table : StatusTable) (inMem : String → Option ClientState)
    (devices : String → Option Int) (now : Int) : String :=
  (deriveItem r.phoneNumber (Function.update inMem r.phoneNumber (some liveClient)) devices
    (handleAll table r.events) now).state

end Repairing

/-- An account that is paired again is reported as connected exactly when the last event
that wrote its row records neither a logout nor a ban which still runs. -/
theorem repaired_connected_iff (r : Repairing) (table : StatusTable)
    (inMem : String → Option ClientState) (devices : String → Option Int) (now : Int) :
    r.reported table inMem devices now = "connected" ↔
      ¬ RecordedDead table r.phoneNumber r.events now := by
  unfold Repairing.reported
  rw [deriveItem_connected_iff, handleAll_deadRow_iff]

/-- Re-pairing is always reflected. -/
def RepairingReflected : Prop :=
  ∀ (r : Repairing) table inMem devices now,
    r.reported table inMem devices now = "connected"

/-- The user unlinks the gateway on the phone, and links it again. -/
def relinked : Repairing where
  phoneNumber := "628111"
  before := [⟨"628111", .connected, 1, 1, true⟩]
  logout := ⟨"628111", .loggedOut false "", 2, 2, true⟩
  between := []
  connected := ⟨"628111", .connected, 3, 3, true⟩
  logout_phone := rfl
  logout_event := rfl
  connected_phone := rfl
  connected_event := rfl

theorem relinked_reported_loggedOut : ¬ RepairingReflected := by
  intro hall
  have hreported : relinked.reported (fun _ => none) (fun _ => none) (fun _ => none) 4 =
      "logged_out" := by decide +kernel
  have hconnected := hall relinked (fun _ => none) (fun _ => none) (fun _ => none) 4
  rw [hreported] at hconnected
  exact absurd hconnected (by decide)

end WhatsappGateway.Whatsapp
