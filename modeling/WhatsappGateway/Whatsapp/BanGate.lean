import WhatsappGateway.Ratelimiter.Pacer
import WhatsappGateway.Whatsapp.SessionStatus

/-!
How long a temporary ban stops the sends of an account. The ban is the status row of
the account, so it lasts until another event writes that row. Events that write none,
and events of other accounts, leave it in force until its deadline.
-/

namespace WhatsappGateway.Whatsapp

open Lib Ratelimiter

namespace Event

def isBan : Event → Bool
  | .temporaryBan .. => true
  | _ => false

/-- A logout, by itself or as the reason of a connect failure. -/
def isLogout : Event → Bool
  | .loggedOut .. => true
  | .connectFailure isLoggedOut _ => isLoggedOut
  | _ => false

def writesStatus : Event → Bool
  | .message | .connected | .disconnected => false
  | _ => true

end Event

/-- The call replaces the status row of the account. -/
def Overwrites (phone : String) (h : Handled) : Prop :=
  h.phoneNumber = phone ∧ h.event.writesStatus = true ∧ h.persisted = true

/-- The events after a ban: no ban and no logout of the same account. -/
def Later (phone : String) (h : Handled) : Prop :=
  h.phoneNumber = phone → h.event.isBan = false ∧ h.event.isLogout = false

instance (phone : String) (h : Handled) : Decidable (Later phone h) :=
  inferInstanceAs (Decidable (_ → _ ∧ _))

/-- A temporary ban which is handled and persisted. -/
structure Ban where
  phoneNumber : String
  expire : Int
  text : String
  handledAt : Int
  updatedAt : Int
deriving DecidableEq, Repr

namespace Ban

def handled (ban : Ban) : Handled where
  phoneNumber := ban.phoneNumber
  event := .temporaryBan ban.expire ban.text
  handledAt := ban.handledAt
  updatedAt := ban.updatedAt

/-- The expiry that is recorded, or else the end of the default hold. -/
def deadline (cfg : Config) (ban : Ban) : Int :=
  if ban.expire > 0 then ban.handledAt + ban.expire
  else ban.updatedAt + Duration.seconds cfg.outboundPaceBanDefaultHoldSeconds

/-- The row that the ban leaves. -/
def row (ban : Ban) : SessionStatus where
  state := "banned"
  reason := ban.text
  banExpiresAt := if ban.expire > 0 then some (ban.handledAt + ban.expire) else none
  updatedAt := ban.updatedAt

theorem handle_row (table : StatusTable) (ban : Ban) :
    handle table ban.handled ban.phoneNumber = some ban.row := by
  simp [handle, handled, handleEvent, applyEffect, upsertSessionStatus, row]

theorem row_banUntil (cfg : Config) (ban : Ban) : ban.row.banUntil cfg = ban.deadline cfg := by
  unfold SessionStatus.banUntil row deadline
  split <;> split at * <;> simp_all

end Ban

/-- The row of the account does not ban it. -/
def Lifted (table : StatusTable) (phone : String) : Prop :=
  ∃ status, table phone = some status ∧ status.state ≠ "banned"

section Step

variable {phone : String} {table : StatusTable} {h : Handled}

/-- A call for another account, or one whose upsert fails, leaves the row as it is. -/
theorem handle_other (hother : h.phoneNumber ≠ phone ∨ h.persisted = false) :
    handle table h phone = table phone := by
  have heffect : ∀ effect (table : StatusTable),
      applyEffect h table effect phone = table phone := by
    intro effect table
    cases effect with
    | recordSessionStatus state reason banExpiresAt =>
      obtain hphone | hfailed := hother
      · simp only [applyEffect, upsertSessionStatus]
        split
        · exact Function.update_of_ne (Ne.symm hphone) _ _
        · rfl
      · simp [applyEffect, hfailed]
    | evict | dispatch => rfl
  unfold handle
  generalize handleEvent h.handledAt h.event = effects
  induction effects generalizing table with
  | nil => rfl
  | cons effect effects ih => rw [List.foldl_cons, ih, heffect]

/-- So does a call that does not overwrite it. -/
theorem handle_keeps (hquiet : ¬ Overwrites phone h) : handle table h phone = table phone := by
  by_cases hother : h.phoneNumber ≠ phone ∨ h.persisted = false
  · exact handle_other hother
  · have hsilent : h.event.writesStatus = false := by
      by_contra hwrites
      exact hquiet ⟨by simp_all, by simpa using hwrites, by simp_all⟩
    cases hevent : h.event <;> simp [hevent, Event.writesStatus] at hsilent <;>
      simp [handle, hevent, handleEvent, applyEffect]

/-- One that does writes another state than that of a ban. -/
theorem handle_lifts (hlater : Later phone h) (hwrites : Overwrites phone h) :
    Lifted (handle table h) phone := by
  obtain ⟨rfl, hwrites, hpersisted⟩ := hwrites
  obtain ⟨hban, hlogout⟩ := hlater rfl
  cases hevent : h.event with
  | message | connected | disconnected => simp [hevent, Event.writesStatus] at hwrites
  | loggedOut | temporaryBan => simp [hevent, Event.isBan, Event.isLogout] at hban hlogout
  | streamReplaced =>
    simp [Lifted, handle, hevent, handleEvent, applyEffect, hpersisted, upsertSessionStatus]
  | connectFailure loggedOut reason =>
    have hstays : loggedOut = false := by simpa [hevent, Event.isLogout] using hlogout
    simp [Lifted, handle, hevent, handleEvent, applyEffect, hpersisted, upsertSessionStatus,
      hstays]
  | reachoutTimelock isActive =>
    cases isActive <;>
      simp [Lifted, handle, hevent, handleEvent, applyEffect, hpersisted, upsertSessionStatus]

end Step

/-- A ban that is lifted is not put back by later events. -/
theorem handle_lifted {phone : String} {table : StatusTable} {h : Handled}
    (hlater : Later phone h) (hlifted : Lifted table phone) :
    Lifted (handle table h) phone := by
  by_cases hwrites : Overwrites phone h
  · exact handle_lifts hlater hwrites
  · unfold Lifted
    rw [handle_keeps hwrites]
    exact hlifted

theorem handleAll_lifted {phone : String} {table : StatusTable} {events : List Handled}
    (hlater : ∀ h ∈ events, Later phone h) (hlifted : Lifted table phone) :
    Lifted (handleAll table events) phone := by
  induction events generalizing table with
  | nil => exact hlifted
  | cons h events ih =>
    have hnext := handle_lifted (hlater h List.mem_cons_self) hlifted
    exact ih (fun h hmem => hlater h (List.mem_cons_of_mem _ hmem)) hnext

/-- The run of later events: none overwrites the row and it stays, or the ban is lifted. -/
theorem handleAll_cases {phone : String} {table : StatusTable} {events : List Handled}
    (hlater : ∀ h ∈ events, Later phone h) :
    (∀ h ∈ events, ¬ Overwrites phone h) ∧ handleAll table events phone = table phone ∨
      (¬ ∀ h ∈ events, ¬ Overwrites phone h) ∧ Lifted (handleAll table events) phone := by
  induction events generalizing table with
  | nil => exact .inl ⟨by simp, rfl⟩
  | cons h events ih =>
    have hfirst := hlater h List.mem_cons_self
    have hrest : ∀ h ∈ events, Later phone h :=
      fun h hmem => hlater h (List.mem_cons_of_mem _ hmem)
    by_cases hwrites : Overwrites phone h
    · have hlifted : Lifted (handleAll (handle table h) events) phone :=
        handleAll_lifted hrest (handle_lifts hfirst hwrites)
      exact .inr ⟨by simp [hwrites], hlifted⟩
    · have hkeeps : handle table h phone = table phone := handle_keeps hwrites
      obtain ⟨hquiet, hrow⟩ | ⟨hloud, hlifted⟩ := @ih (handle table h) hrest
      · exact .inl ⟨List.forall_mem_cons.mpr ⟨hwrites, hquiet⟩, hrow.trans hkeeps⟩
      · exact .inr ⟨fun hall => hloud (List.forall_mem_cons.mp hall).2, hlifted⟩

/-- The gateway knows at the instant `now` that the account is banned, and the enabled
pacer turns every operation away before it takes anything from a limiter. `err` is the
error of reading the status, if there is one. -/
structure Blocked (cfg : Config) (phone : String) (table : StatusTable) (err : Option String)
    (now deadline : Int) : Prop where
  reported : (banState cfg (getSessionStatus table phone err) now).isSome = true
  rejected : ∀ (p : Pacer) recipient n limiters later, p.enabled = true → later < deadline →
    ∃ retryAfter > 0, p.step phone recipient n limiters .entered
        (.checkBan (banState cfg (getSessionStatus table phone err) now) later) =
      some (limiters, .done (.rateLimited { retryAfter }))

section Gate

variable {cfg : Config} {phone : String} {table : StatusTable} {now : Int}

theorem banState_row {ban : Ban} (hrow : table phone = some ban.row)
    (hnow : now < ban.deadline cfg) :
    banState cfg (getSessionStatus table phone none) now = some (ban.deadline cfg) := by
  have hbanned : ban.row.state = "banned" := rfl
  simp [banState, getSessionStatus, hrow, hbanned, ban.row_banUntil cfg, hnow]

theorem banState_lifted {err : Option String} (hlifted : Lifted table phone) :
    banState cfg (getSessionStatus table phone err) now = none := by
  obtain ⟨status, hrow, hstate⟩ := hlifted
  cases err with
  | some err => rfl
  | none => simp [banState, getSessionStatus, hrow, hstate]

theorem blocked_of_banState {err : Option String} {deadline : Int}
    (hstate : banState cfg (getSessionStatus table phone err) now = some deadline) :
    Blocked cfg phone table err now deadline where
  reported := by simp [hstate]
  rejected p recipient n limiters later henabled hlater := by
    rw [hstate]
    exact ⟨deadline - later, by omega, Pacer.step_banned henabled hlater⟩

end Gate

/-- A temporary ban is in force until its deadline exactly when the status can be read and
no later event has overwritten it. -/
theorem ban_blocks_iff (cfg : Config) (table : StatusTable) (ban : Ban)
    (events : List Handled) (err : Option String) (now : Int)
    (hlater : ∀ h ∈ events, Later ban.phoneNumber h) (hnow : now < ban.deadline cfg) :
    Blocked cfg ban.phoneNumber (handleAll (handle table ban.handled) events) err now
        (ban.deadline cfg) ↔
      err = none ∧ ∀ h ∈ events, ¬ Overwrites ban.phoneNumber h := by
  have hcases := @handleAll_cases _ (handle table ban.handled) _ hlater
  constructor
  · intro hblocked
    have hreported := hblocked.reported
    refine ⟨?_, ?_⟩
    · cases err with
      | none => rfl
      | some err => simp [banState, getSessionStatus] at hreported
    · obtain ⟨hquiet, -⟩ | ⟨-, hlifted⟩ := hcases
      · exact hquiet
      · simp [banState_lifted hlifted] at hreported
  · rintro ⟨rfl, hquiet⟩
    obtain ⟨-, hrow⟩ | ⟨hloud, -⟩ := hcases
    · exact blocked_of_banState (banState_row (hrow.trans (ban.handle_row table)) hnow)
    · exact absurd hquiet hloud

def sampleBan : Ban where
  phoneNumber := "628111"
  expire := 3600 * Duration.second
  text := "sent to too many people"
  handledAt := 0
  updatedAt := 0

/-- A reconnect, and a ban of another account. -/
def quietEvents : List Handled :=
  [⟨"628111", .connected, 1, 1, true⟩, ⟨"628222", .temporaryBan 0 "banned", 2, 2, true⟩]

theorem quiet_ban_blocks :
    Blocked {} "628111" (handleAll (handle (fun _ => none) sampleBan.handled) quietEvents) none
      (60 * Duration.second) (sampleBan.deadline {}) :=
  (ban_blocks_iff {} (fun _ => none) sampleBan quietEvents none (60 * Duration.second)
    (by decide) (by decide)).mpr ⟨rfl, by simp [quietEvents, Overwrites, Event.writesStatus,
      sampleBan]⟩

/-- A temporary ban is in force until its deadline, whatever is handled after it. -/
def BanPersists : Prop :=
  ∀ cfg table (ban : Ban) events now, (∀ h ∈ events, Later ban.phoneNumber h) →
    now < ban.deadline cfg →
    Blocked cfg ban.phoneNumber (handleAll (handle table ban.handled) events) none now
      (ban.deadline cfg)

/-- The client tries to reconnect, and the server cannot serve it. -/
def refusedReconnect : List Handled :=
  [⟨"628111", .connectFailure false "503: service unavailable", 1, 1, true⟩]

theorem connectFailure_lifts_ban : ¬ BanPersists := by
  intro hall
  have hblocked := hall {} (fun _ => none) sampleBan refusedReconnect (60 * Duration.second)
    (by decide) (by decide)
  have hlifted : banState {} (getSessionStatus
      (handleAll (handle (fun _ => none) sampleBan.handled) refusedReconnect)
      sampleBan.phoneNumber none) (60 * Duration.second) = none := by decide +kernel
  have hreported := hblocked.reported
  simp [hlifted] at hreported

end WhatsappGateway.Whatsapp
