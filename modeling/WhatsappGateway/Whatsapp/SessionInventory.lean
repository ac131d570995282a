import WhatsappGateway.Whatsapp.BanGate

/-!
What operators see of an account. The state is derived from the client in memory, the
device rows and the persisted status, and a status of a dead session wins over a client
that is still in memory. The send gate reads the same row by itself.
-/

namespace WhatsappGateway.Whatsapp

open Lib

/-- What is known of a client in memory. -/
structure ClientState where
  paired : Bool
  connected : Bool
  loggedIn : Bool
deriving DecidableEq, Repr

/-- One account of the inventory. `lastSeen` is the zero time when nothing is known. -/
structure SessionInventoryItem where
  phoneMasked : String
  state : String
  source : String
  reason : String := ""
  lastSeen : Option Int
  banExpiresAt : Option Int := none
deriving DecidableEq, Repr

/-- All but the last four digits of a phone number. -/
def maskedPhoneNumber (phoneNumber : String) : String :=
  if phoneNumber.length < 4 then phoneNumber
  else String.ofList (phoneNumber.toList.take (phoneNumber.length - 4)) ++ "xxxx"

/-- A ban that has not expired. One without an expiry never does. -/
def SessionStatus.banUnexpired (st : SessionStatus) (now : Int) : Bool :=
  st.state = "banned" && (match st.banExpiresAt with
    | none => true
    | some banExpiresAt => banExpiresAt > now)

/-- The persisted session is dead, so that a client in memory only lingers. -/
def SessionStatus.dead (st : SessionStatus) (now : Int) : Bool :=
  st.state = "logged_out" || st.banUnexpired now

def ClientState.state (cs : ClientState) : String :=
  if !cs.paired then "never_paired"
  else if cs.connected && cs.loggedIn then "connected"
  else "disconnected"

/-- The state of one account, from the three sources. -/
def deriveItem (phone : String) (inMem : String → Option ClientState)
    (devices : String → Option Int) (status : StatusTable) (now : Int) :
    SessionInventoryItem :=
  let phoneMasked := maskedPhoneNumber phone
  if let some st := (status phone).filter (·.dead now) then
    { phoneMasked, state := st.state, source := "store", reason := st.reason,
      lastSeen := some st.updatedAt,
      banExpiresAt := if st.banUnexpired now then st.banExpiresAt else none }
  else if let some cs := inMem phone then
    { phoneMasked, state := cs.state, source := "in-memory", lastSeen := some now }
  else if let some st := status phone then
    -- a ban that is left here has expired
    if st.state = "banned" then
      { phoneMasked, state := "disconnected", source := "store", reason := "ban_expired",
        lastSeen := some st.updatedAt }
    else
      { phoneMasked, state := st.state, source := "store", reason := st.reason,
        lastSeen := some st.updatedAt }
  else
    { phoneMasked, state := "disconnected", source := "store", lastSeen := devices phone }

section Derive

variable {phone : String} {inMem : String → Option ClientState}
  {devices : String → Option Int} {status : StatusTable} {now : Int}

theorem ClientState.state_ne_banned (cs : ClientState) : cs.state ≠ "banned" := by
  unfold ClientState.state
  split
  · decide
  · split <;> decide

/-- A dead session is reported under its persisted state. -/
theorem deriveItem_dead {st : SessionStatus} (hrow : status phone = some st)
    (hdead : st.dead now = true) :
    (deriveItem phone inMem devices status now).state = st.state := by
  simp [deriveItem, hrow, Option.filter, hdead]

/-- Otherwise a client in memory is what counts. -/
theorem deriveItem_live {cs : ClientState} (hclient : inMem phone = some cs)
    (halive : ∀ st, status phone = some st → st.dead now = false) :
    (deriveItem phone inMem devices status now).state = cs.state := by
  have hfilter : (status phone).filter (·.dead now) = none := by
    apply Option.filter_eq_none_iff.mpr
    intro st hrow
    simp [halive st hrow]
  simp [deriveItem, hfilter, hclient]

theorem deriveItem_alive_ne_banned
    (halive : ∀ st, status phone = some st → st.dead now = false) :
    (deriveItem phone inMem devices status now).state ≠ "banned" := by
  have hfilter : (status phone).filter (·.dead now) = none := by
    apply Option.filter_eq_none_iff.mpr
    intro st hrow
    simp [halive st hrow]
  cases hclient : inMem phone with
  | some cs =>
    rw [deriveItem_live hclient halive]
    exact cs.state_ne_banned
  | none =>
    cases hrow : status phone with
    | none => simp [deriveItem, hclient, hrow]
    | some st =>
      rw [hrow] at hfilter
      by_cases hbanned : st.state = "banned"
      · simp [deriveItem, hfilter, hclient, hrow, hbanned]
      · simp [deriveItem, hfilter, hclient, hrow, hbanned]

/-- The inventory reports a ban exactly while the row holds an unexpired one. -/
theorem deriveItem_banned_iff :
    (deriveItem phone inMem devices status now).state = "banned" ↔
      ∃ st, status phone = some st ∧ st.banUnexpired now = true := by
  constructor
  · intro hstate
    by_contra hnone
    cases hrow : status phone with
    | none => exact deriveItem_alive_ne_banned (by simp [hrow]) hstate
    | some st =>
      have hexpired : st.banUnexpired now = false := by
        by_contra hban
        exact hnone ⟨st, hrow, by simpa using hban⟩
      by_cases hout : st.state = "logged_out"
      · have hdead : st.dead now = true := by simp [SessionStatus.dead, hout]
        rw [deriveItem_dead hrow hdead, hout] at hstate
        exact absurd hstate (by decide)
      · apply deriveItem_alive_ne_banned _ hstate
        intro other hother
        obtain rfl := Option.some.inj (hother.symm.trans hrow)
        simp [SessionStatus.dead, hout, hexpired]
  · rintro ⟨st, hrow, hban⟩
    rw [deriveItem_dead hrow (by simp [SessionStatus.dead, hban])]
    simp only [SessionStatus.banUnexpired, Bool.and_eq_true, decide_eq_true_eq] at hban
    exact hban.1

end Derive

/-- The row holds a ban without an expiry whose default hold is over. -/
def HoldLapsed (cfg : Config) (read : Option SessionStatus) (now : Int) : Prop :=
  ∃ st, read = some st ∧ st.state = "banned" ∧ st.banExpiresAt = none ∧
    st.updatedAt + Duration.seconds cfg.outboundPaceBanDefaultHoldSeconds ≤ now

/-- The gate reports a ban exactly while it is unexpired or, without an expiry, held. -/
theorem banState_row_iff (cfg : Config) (st : SessionStatus) (now : Int) :
    (banState cfg (.ok (some st)) now).isSome = true ↔
      st.banUnexpired now = true ∧ ¬ HoldLapsed cfg (some st) now := by
  unfold banState SessionStatus.banUntil SessionStatus.banUnexpired HoldLapsed
  by_cases hbanned : st.state = "banned"
  · cases hexpiry : st.banExpiresAt with
    | none =>
      by_cases hheld : st.updatedAt + Duration.seconds cfg.outboundPaceBanDefaultHoldSeconds > now
      · simp [hbanned, hexpiry, hheld]
      · simp [hbanned, hexpiry, hheld, Int.not_lt.mp hheld]
    | some banExpiresAt =>
      by_cases hfuture : banExpiresAt > now
      · simp [hbanned, hexpiry, hfuture]
      · simp [hbanned, hexpiry, hfuture]
  · simp [hbanned]

/-- The inventory and the gate agree on a ban unless the row holds one without an expiry
and its default hold is over: the gate then lets the account send again, and the
inventory goes on reporting it as banned. -/
theorem ban_agreement_iff (cfg : Config) (phone : String) (inMem : String → Option ClientState)
    (devices : String → Option Int) (status : StatusTable) (now : Int) :
    ((deriveItem phone inMem devices status now).state = "banned" ↔
        (banState cfg (getSessionStatus status phone none) now).isSome = true) ↔
      ¬ HoldLapsed cfg (status phone) now := by
  rw [deriveItem_banned_iff]
  cases hrow : status phone with
  | none => simp [getSessionStatus, hrow, banState, HoldLapsed]
  | some st =>
    simp only [getSessionStatus, hrow, banState_row_iff, Option.some.injEq, exists_eq_left']
    constructor
    · rintro hagree ⟨_, hst, hbanned, hexpiry, hover⟩
      obtain rfl := Option.some.inj hst
      have hunexpired : st.banUnexpired now = true := by
        simp [SessionStatus.banUnexpired, hbanned, hexpiry]
      exact (hagree.mp hunexpired).2 ⟨st, rfl, hbanned, hexpiry, hover⟩
    · intro hheld
      exact ⟨fun hunexpired => ⟨hunexpired, hheld⟩, And.left⟩

/-- The inventory and the gate agree on every row, at every instant. -/
def BansAgree : Prop :=
  ∀ cfg phone inMem devices (status : StatusTable) now,
    (deriveItem phone inMem devices status now).state = "banned" ↔
      (banState cfg (getSessionStatus status phone none) now).isSome = true

/-- A ban for which the server gave no duration. -/
def openBan : StatusTable :=
  handle (fun _ => none) ⟨"628111", .temporaryBan 0 "sent to too many people", 0, 0, true⟩

/-- It is read at the instant at which the default hold of one hour ends. -/
theorem openBan_disagrees : ¬ BansAgree := by
  intro hall
  have hagree := hall {} "628111" (fun _ => none) (fun _ => none) openBan
    (3600 * Duration.second)
  have hinventory : (deriveItem "628111" (fun _ => none) (fun _ => none) openBan
      (3600 * Duration.second)).state = "banned" := by decide +kernel
  have hgate : banState {} (getSessionStatus openBan "628111" none)
      (3600 * Duration.second) = none := by decide +kernel
  have hsome := hagree.mp hinventory
  simp [hgate] at hsome

end WhatsappGateway.Whatsapp
