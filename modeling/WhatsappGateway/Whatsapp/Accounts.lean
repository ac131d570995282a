import WhatsappGateway.Lib.Isolation
import WhatsappGateway.Whatsapp.SessionStatus
import WhatsappGateway.Whatsapp.Subscriptions

/-!
The accounts of one gateway. They share the maps of the clients and of the JIDs, the table of
the statuses, that of the subscriptions, the queue and the sender. Everything is kept by phone
number except the subscriptions, which are kept by JID; a handler reads the JID of its account
once and carries it along, while clients come and go.

The handlers of all accounts run concurrently, an effect at a time. What one account sees is
what it would see if the gateway were its own.
-/

namespace WhatsappGateway.Whatsapp

open Lib Events Cipherx

/-- What a webhook reports. The further fields of a session event are those of the event. -/
inductive WebhookPayload where
  | message (phoneNumber messageID : String)
  | session (event : SessionEvent) (phoneNumber jid : String) (timestamp : Int) (evt : Event)
deriving DecidableEq, Repr

/-- Where a handler of an account stands. -/
inductive Handling where
  /-- a message is captured, and not yet handed over -/
  | captured (jid traceID messageID : String)
  /-- the message is delivered in a goroutine -/
  | direct (jid messageID : String)
  /-- the rest of the effects of a lifecycle event -/
  | lifecycle (jid : String) (h : Handled) (todo : List Effect)
  /-- the rest of the subscriptions -/
  | fanOut (payload : WebhookPayload) (event : String) (subs : List WebhookSubscription)
deriving DecidableEq, Repr

/-- What is published for an incoming message. -/
structure IncomingEvent where
  phoneNumber : String
  jid : String
  traceID : String
  messageID : String
deriving DecidableEq, Repr

/-- A webhook that was handed over to the queue, to the sender's goroutines or to a receiver. -/
structure HandedOver where
  phoneNumber : String
  queued : Bool
  url : String
  hmacSecret : String
  payload : WebhookPayload
deriving DecidableEq, Repr

structure Gateway where
  clients : String → Option (Option String)
  jids : String → String
  statuses : StatusTable
  rows : List SubscriptionRow
  handlers : String → Nat → Option Handling
  published : List IncomingEvent
  webhooks : List HandedOver

/-- What a handler comes upon at a step. -/
structure StepEnv where
  loads : Bool
  healthy : Bool
  publishes : Bool
  validURL : Bool
  slot : Bool
deriving DecidableEq, Repr

/-- A step on behalf of the account of a phone number. -/
inductive AccountAction where
  /-- `InitClient`, with the JID of a restored device -/
  | initClient (phone : String) (jid : Option String)
  /-- the client library pairs the device, or deletes it -/
  | storeID (phone : String) (jid : Option String)
  | evict (phone : String)
  | message (phone : String) (k : Nat) (fromMe : Bool) (traceID messageID : String)
  | lifecycle (k : Nat) (h : Handled)
  | advance (phone : String) (k : Nat) (env : StepEnv)
  | subscription (phone : String) (call : SubscriptionCall)

def AccountAction.phone : AccountAction → String
  | .initClient phone _ | .storeID phone _ | .evict phone | .message phone _ _ _ _
  | .advance phone _ _ | .subscription phone _ => phone
  | .lifecycle _ h => h.phoneNumber

/-- The manager's call, on the client's JID. -/
def SubscriptionCall.onClient (jid : Option String) : SubscriptionCall → SubscriptionCall
  | .set env now webhook => .set { env with client := jid } now webhook
  | .delete env url => .delete { env with client := jid } url
  | .deleteAll env => .deleteAll { env with client := jid }

namespace Gateway

def setHandler (s : Gateway) (phone : String) (k : Nat) (h : Option Handling) : Gateway :=
  { s with handlers := Function.update s.handlers phone (Function.update (s.handlers phone) k h) }

/-- `SetJID`. -/
def setJID (s : Gateway) (phone jid : String) : Gateway :=
  if jid = "" then s else { s with jids := Function.update s.jids phone jid }

/-- The live client's JID, which is cached, or the cached one. -/
def sessionJID (s : Gateway) (phone : String) : Gateway × String :=
  match s.clients phone with
  | some (some jid) => (s.setJID phone jid, jid)
  | _ => (s, s.jids phone)

/-- The next step of a handler. -/
def advance (s : Gateway) (phone : String) (k : Nat) (env : StepEnv) : Handling → Gateway
  | .captured jid traceID messageID =>
    if env.healthy && env.publishes then
      { s.setHandler phone k none with
        published := ⟨phone, jid, traceID, messageID⟩ :: s.published }
    else s.setHandler phone k (if env.slot then some (.direct jid messageID) else none)
  | .direct jid messageID =>
    s.setHandler phone k (if env.loads then some (.fanOut (.message phone messageID)
      eventMessageIncoming (getWebhookSubscriptions s.rows jid)) else none)
  | .lifecycle _ _ [] => s.setHandler phone k none
  | .lifecycle jid h (.recordSessionStatus state reason banExpiresAt :: todo) =>
    { s.setHandler phone k (some (.lifecycle jid h todo)) with
      statuses := applyEffect h s.statuses (.recordSessionStatus state reason banExpiresAt) }
  | .lifecycle jid h (.evict :: todo) =>
    { s.setHandler phone k (some (.lifecycle jid h todo)) with
      clients := Function.update s.clients phone none }
  | .lifecycle jid h (.dispatch event :: _) =>
    s.setHandler phone k (if jid ≠ "" ∧ env.loads then
      some (.fanOut (.session event phone jid h.handledAt h.event) event.name
        (getWebhookSubscriptions s.rows jid)) else none)
  | .fanOut _ _ [] => s.setHandler phone k none
  | .fanOut payload event (sub :: subs) =>
    let next := s.setHandler phone k (some (.fanOut payload event subs))
    if eventMatches sub.events event then
      match payload with
      | .message _ _ =>
        -- delivered in the goroutine, if the URL is good
        if env.validURL then
          { next with webhooks := ⟨phone, false, sub.url, sub.hmacSecret, payload⟩ :: s.webhooks }
        else next
      | .session _ _ _ _ _ =>
        -- published, or sent asynchronously if a slot is free
        let queued := env.healthy && env.publishes
        if queued || env.slot then
          { next with webhooks := ⟨phone, queued, sub.url, sub.hmacSecret, payload⟩ :: s.webhooks }
        else next
    else next

def step (s : Gateway) : AccountAction → Gateway
  | .initClient phone jid =>
    match s.clients phone with
    | none => { s with clients := Function.update s.clients phone (some jid) }
    | some _ => s
  | .storeID phone jid =>
    match s.clients phone with
    | none => s
    | some _ => { s with clients := Function.update s.clients phone (some jid) }
  | .evict phone => { s with clients := Function.update s.clients phone none }
  | .message phone k fromMe traceID messageID =>
    if fromMe ∨ s.handlers phone k ≠ none then s
    else
      match s.clients phone with
      | some (some jid) =>
        (s.setJID phone jid).setHandler phone k (some (.captured jid traceID messageID))
      | _ => s
  | .lifecycle k h =>
    if s.handlers h.phoneNumber k ≠ none then s
    else
      let (s, jid) := s.sessionJID h.phoneNumber
      s.setHandler h.phoneNumber k (some (.lifecycle jid h (handleEvent h.handledAt h.event)))
  | .advance phone k env =>
    match s.handlers phone k with
    | some h => s.advance phone k env h
    | none => s
  | .subscription phone call =>
    { s with rows := (call.onClient (s.clients phone).join).apply s.rows }

end Gateway

/-! ### What an account sees -/

/-- The part of a gateway that is one account's, `owner` being whose a JID is. -/
@[ext] structure AccountView where
  client : Option (Option String)
  jid : String
  status : Option SessionStatus
  rows : List SubscriptionRow
  handlers : Nat → Option Handling
  published : List IncomingEvent
  webhooks : List HandedOver

def Gateway.view (owner : String → String) (phone : String) (s : Gateway) : AccountView where
  client := s.clients phone
  jid := s.jids phone
  status := s.statuses phone
  rows := s.rows.filter fun row => owner row.jid = phone
  handlers := s.handlers phone
  published := s.published.filter fun event => event.phoneNumber = phone
  webhooks := s.webhooks.filter fun webhook => webhook.phoneNumber = phone

/-- A JID is given to no two accounts. -/
def AccountAction.Issued (owner : String → String) : AccountAction → Prop
  | .initClient phone (some jid) | .storeID phone (some jid) => owner jid = phone
  | _ => True

def Handling.OwnedBy (owner : String → String) (phone : String) : Handling → Prop
  | .captured jid _ _ | .direct jid _ => owner jid = phone
  | .lifecycle jid h _ => h.phoneNumber = phone ∧ (jid ≠ "" → owner jid = phone)
  | .fanOut _ _ _ => True

/-- The JIDs that are kept for an account are its own. -/
structure Owned (owner : String → String) (s : Gateway) : Prop where
  clients : ∀ {phone jid}, s.clients phone = some (some jid) → owner jid = phone
  jids : ∀ phone, s.jids phone ≠ "" → owner (s.jids phone) = phone
  handlers : ∀ {phone k h}, s.handlers phone k = some h → h.OwnedBy owner phone

/-! ### The subscriptions of an account -/

variable {owner : String → String} {phone other : String} {rows : List SubscriptionRow}
  {s t : Gateway} {k : Nat} {env : StepEnv} {h : Handling}

theorem getWebhookSubscriptions_own {jid : String} (hjid : owner jid = phone)
    (rows : List SubscriptionRow) :
    getWebhookSubscriptions (rows.filter fun row => owner row.jid = phone) jid =
      getWebhookSubscriptions rows jid := by
  have hfilter : (rows.filter fun row => owner row.jid = phone).filter (fun row => row.jid = jid) =
      rows.filter fun row => row.jid = jid := by
    rw [List.filter_filter]
    refine List.filter_congr ?_
    intro row _
    by_cases hrow : row.jid = jid
    · simp [hrow, hjid]
    · simp [hrow]
  rw [getWebhookSubscriptions, hfilter, getWebhookSubscriptions]

theorem filter_overwrite (keep : String → Bool) (now : Int) (n : NewSubscription)
    (rows : List SubscriptionRow) :
    (rows.map (n.overwrite now)).filter (fun row => keep row.jid) =
      (rows.filter fun row => keep row.jid).map (n.overwrite now) := by
  rw [List.filter_map]
  congr 1
  refine List.filter_congr ?_
  intro row _
  rw [Function.comp_apply, overwrite_jid]

/-- An upsert, among the rows of some JIDs. -/
theorem filter_upsert_of_keep {keep : String → Bool} {n : NewSubscription}
    (hkeep : keep n.jid = true) (now : Int) (rows : List SubscriptionRow) :
    (upsertSubscription now n rows).filter (fun row => keep row.jid) =
      upsertSubscription now n (rows.filter fun row => keep row.jid) := by
  have hthere : (∃ row ∈ rows.filter (fun row => keep row.jid), row.key = (n.jid, n.url)) ↔
      ∃ row ∈ rows, row.key = (n.jid, n.url) := by
    constructor
    · rintro ⟨row, hrow, hkey⟩
      exact ⟨row, List.mem_of_mem_filter hrow, hkey⟩
    · rintro ⟨row, hrow, hkey⟩
      refine ⟨row, List.mem_filter.mpr ⟨hrow, ?_⟩, hkey⟩
      rw [((key_eq_iff row n.jid n.url).mp hkey).1, hkeep]
  unfold upsertSubscription
  by_cases hrow : ∃ row ∈ rows, row.key = (n.jid, n.url)
  · rw [if_pos hrow, if_pos (hthere.mpr hrow), filter_overwrite]
  · rw [if_neg hrow, if_neg (mt hthere.mp hrow), List.filter_append]
    congr 1
    exact List.filter_cons_of_pos hkeep

theorem filter_upsert_of_not_keep {keep : String → Bool} {n : NewSubscription}
    (hkeep : keep n.jid = false) (now : Int) (rows : List SubscriptionRow) :
    (upsertSubscription now n rows).filter (fun row => keep row.jid) =
      rows.filter fun row => keep row.jid := by
  unfold upsertSubscription
  split
  next =>
    rw [filter_overwrite]
    refine (List.map_congr_left ?_).trans (List.map_id _)
    intro row hrow
    refine overwrite_of_jid_ne ?_
    rintro hjid
    have hkept := List.of_mem_filter hrow
    rw [hjid, hkeep] at hkept
    cases hkept
  next =>
    rw [List.filter_append, List.filter_cons_of_neg (by simp [hkeep]), List.filter_nil,
      List.append_nil]

/-- The JID of the client that a call comes upon. -/
def SubscriptionCall.client : SubscriptionCall → Option String
  | .set env _ _ | .delete env _ | .deleteAll env => env.client

theorem acceptSubscription_client {env : SetEnv} {webhook : Webhook} {n : NewSubscription}
    (h : acceptSubscription env webhook = .ok n) : env.client = some n.jid := by
  unfold acceptSubscription at h
  obtain ⟨-, -, h⟩ := bind_eq_ok.mp h
  obtain ⟨-, -, h⟩ := bind_eq_ok.mp h
  split at h
  · cases h
  · obtain ⟨hmacSecret, hsecret, h⟩ := bind_eq_ok.mp h
    split at h
    · cases h
    next jid hclient =>
      split at h
      · cases h
      · cases h
        exact hclient

theorem acceptDelete_client {env : SetEnv} {jid : String} (h : acceptDelete env = .ok jid) :
    env.client = some jid := by
  unfold acceptDelete at h
  obtain ⟨-, -, h⟩ := bind_eq_ok.mp h
  split at h
  · cases h
  next jid hclient =>
    split at h
    · cases h
    · cases h
      exact hclient

/-- A call on one of the JIDs does the same among their rows. -/
theorem filter_apply_of_keep {keep : String → Bool} {call : SubscriptionCall}
    (hkeep : ∀ jid, call.client = some jid → keep jid = true) (rows : List SubscriptionRow) :
    (call.apply rows).filter (fun row => keep row.jid) =
      call.apply (rows.filter fun row => keep row.jid) := by
  cases call with
  | set env now webhook =>
    dsimp only [SubscriptionCall.apply]
    cases haccept : acceptSubscription env webhook with
    | error err => rfl
    | ok n => exact filter_upsert_of_keep (hkeep n.jid (acceptSubscription_client haccept)) now rows
  | delete env url | deleteAll env =>
    dsimp only [SubscriptionCall.apply]
    cases acceptDelete env with
    | error err => rfl
    | ok jid => exact List.filter_comm ..

/-- A call on another JID leaves their rows as they are. -/
theorem filter_apply_of_not_keep {keep : String → Bool} {call : SubscriptionCall}
    (hkeep : ∀ jid, call.client = some jid → keep jid = false) (rows : List SubscriptionRow) :
    (call.apply rows).filter (fun row => keep row.jid) = rows.filter fun row => keep row.jid := by
  cases call with
  | set env now webhook =>
    dsimp only [SubscriptionCall.apply]
    cases haccept : acceptSubscription env webhook with
    | error err => rfl
    | ok n =>
      exact filter_upsert_of_not_keep (hkeep n.jid (acceptSubscription_client haccept)) now rows
  | delete env url =>
    dsimp only [SubscriptionCall.apply]
    cases haccept : acceptDelete env with
    | error err => rfl
    | ok jid =>
      dsimp only
      rw [List.filter_comm]
      refine List.filter_eq_self.mpr ?_
      intro row hrow
      rw [decide_eq_true_iff]
      intro hkey
      have hkept := List.of_mem_filter hrow
      rw [((key_eq_iff row jid url).mp hkey).1, hkeep jid (acceptDelete_client haccept)] at hkept
      cases hkept
  | deleteAll env =>
    dsimp only [SubscriptionCall.apply]
    cases haccept : acceptDelete env with
    | error err => rfl
    | ok jid =>
      dsimp only
      rw [List.filter_comm]
      refine List.filter_eq_self.mpr ?_
      intro row hrow
      rw [decide_eq_true_iff]
      intro hjid
      have hkept := List.of_mem_filter hrow
      rw [hjid, hkeep jid (acceptDelete_client haccept)] at hkept
      cases hkept

/-! ### What a step does to the views -/

section Views

variable (owner : String → String) (phone : String)

theorem view_setHandler_self (s : Gateway) (k : Nat) (h : Option Handling) :
    (s.setHandler phone k h).view owner phone =
      { s.view owner phone with handlers := Function.update (s.handlers phone) k h } := by
  simp only [Gateway.setHandler, Gateway.view, Function.update_self]

theorem view_setHandler_of_ne (hother : phone ≠ other) (s : Gateway) (k : Nat)
    (h : Option Handling) : (s.setHandler other k h).view owner phone = s.view owner phone := by
  simp only [Gateway.setHandler, Gateway.view, Function.update_of_ne hother]

theorem view_setJID_of_ne (hother : phone ≠ other) (s : Gateway) (jid : String) :
    (s.setJID other jid).view owner phone = s.view owner phone := by
  unfold Gateway.setJID
  split
  · rfl
  · simp only [Gateway.view, Function.update_of_ne hother]

theorem view_setClient_of_ne (hother : phone ≠ other) (s : Gateway)
    (client : Option (Option String)) :
    { s with clients := Function.update s.clients other client }.view owner phone =
      s.view owner phone := by
  simp only [Gateway.view, Function.update_of_ne hother]

theorem view_sessionJID_of_ne (hother : phone ≠ other) (s : Gateway) :
    (s.sessionJID other).1.view owner phone = s.view owner phone := by
  unfold Gateway.sessionJID
  split
  · exact view_setJID_of_ne owner phone hother s _
  · rfl

end Views

theorem applyEffect_of_ne {h : Handled} (hother : phone ≠ h.phoneNumber) (table : StatusTable)
    (effect : Effect) : applyEffect h table effect phone = table phone := by
  cases effect with
  | recordSessionStatus state reason banExpiresAt =>
    rw [applyEffect]
    split
    · rw [upsertSessionStatus, Function.update_of_ne hother]
    · rfl
  | evict | dispatch _ => rfl

/-- A step of a handler is one of its account only. -/
theorem view_advance_of_ne (owner : String → String) (hother : phone ≠ other) (s : Gateway)
    (k : Nat) (env : StepEnv) (hown : h.OwnedBy owner other) :
    (s.advance other k env h).view owner phone = s.view owner phone := by
  have hne : other ≠ phone := hother.symm
  cases h with
  | captured jid traceID messageID =>
    rw [Gateway.advance]
    split <;> simp [Gateway.view, Gateway.setHandler, hother, hne]
  | direct jid messageID => simp [Gateway.advance, Gateway.view, Gateway.setHandler, hother]
  | lifecycle jid h todo =>
    cases todo with
    | nil => simp [Gateway.advance, Gateway.view, Gateway.setHandler, hother]
    | cons effect todo =>
      cases effect with
      | recordSessionStatus state reason banExpiresAt =>
        have hphone : phone ≠ h.phoneNumber := hown.1 ▸ hother
        have hstatus := applyEffect_of_ne hphone s.statuses
          (.recordSessionStatus state reason banExpiresAt)
        simp [Gateway.advance, Gateway.view, Gateway.setHandler, hother, hstatus]
      | evict => simp [Gateway.advance, Gateway.view, Gateway.setHandler, hother]
      | dispatch event => simp [Gateway.advance, Gateway.view, Gateway.setHandler, hother]
  | fanOut payload event subs =>
    cases subs with
    | nil => simp [Gateway.advance, Gateway.view, Gateway.setHandler, hother]
    | cons sub subs =>
      dsimp only [Gateway.advance]
      split
      · cases payload with
        | message phoneNumber messageID =>
          dsimp only
          split <;> simp [Gateway.view, Gateway.setHandler, hother, hne]
        | session event phoneNumber jid timestamp evt =>
          dsimp only
          split <;> simp [Gateway.view, Gateway.setHandler, hother, hne]
      · simp [Gateway.view, Gateway.setHandler, hother]

theorem applyEffect_congr {h : Handled} (hphone : h.phoneNumber = phone)
    {table table' : StatusTable} (htable : table phone = table' phone) (effect : Effect) :
    applyEffect h table effect phone = applyEffect h table' effect phone := by
  subst hphone
  cases effect with
  | recordSessionStatus state reason banExpiresAt =>
    rw [applyEffect, applyEffect]
    split
    · rw [upsertSessionStatus, upsertSessionStatus, Function.update_self, Function.update_self]
    · exact htable
  | evict | dispatch _ => exact htable

/-- The subscriptions that a handler loads are among what its account sees. -/
theorem subscriptions_congr (hview : s.view owner phone = t.view owner phone) {jid : String}
    (hjid : owner jid = phone) :
    getWebhookSubscriptions s.rows jid = getWebhookSubscriptions t.rows jid := by
  rw [← getWebhookSubscriptions_own hjid s.rows, ← getWebhookSubscriptions_own hjid t.rows]
  exact congrArg (getWebhookSubscriptions · jid) (congrArg AccountView.rows hview)

/-- A step of a handler reads nothing but what its account sees. -/
theorem view_advance_congr (hview : s.view owner phone = t.view owner phone) (k : Nat)
    (env : StepEnv) (hown : h.OwnedBy owner phone) :
    (s.advance phone k env h).view owner phone = (t.advance phone k env h).view owner phone := by
  have hclients : s.clients phone = t.clients phone := congrArg AccountView.client hview
  have hjids : s.jids phone = t.jids phone := congrArg AccountView.jid hview
  have hstatuses : s.statuses phone = t.statuses phone := congrArg AccountView.status hview
  have hrows := congrArg AccountView.rows hview
  have hhandlers : s.handlers phone = t.handlers phone := congrArg AccountView.handlers hview
  have hpublished := congrArg AccountView.published hview
  have hwebhooks := congrArg AccountView.webhooks hview
  dsimp only [Gateway.view] at hrows hpublished hwebhooks
  cases h with
  | captured jid traceID messageID =>
    dsimp only [Gateway.advance]
    split <;> simp [Gateway.view, Gateway.setHandler, *]
  | direct jid messageID =>
    simp [Gateway.advance, Gateway.view, Gateway.setHandler, subscriptions_congr hview hown, *]
  | lifecycle jid h todo =>
    cases todo with
    | nil => simp [Gateway.advance, Gateway.view, Gateway.setHandler, *]
    | cons effect todo =>
      cases effect with
      | recordSessionStatus state reason banExpiresAt =>
        have hstatus := applyEffect_congr hown.1 hstatuses
          (.recordSessionStatus state reason banExpiresAt)
        simp [Gateway.advance, Gateway.view, Gateway.setHandler, *]
      | evict => simp [Gateway.advance, Gateway.view, Gateway.setHandler, *]
      | dispatch event =>
        by_cases hjid : jid = ""
        · simp [Gateway.advance, Gateway.view, Gateway.setHandler, *]
        · simp [Gateway.advance, Gateway.view, Gateway.setHandler,
            subscriptions_congr hview (hown.2 hjid), *]
  | fanOut payload event subs =>
    cases subs with
    | nil => simp [Gateway.advance, Gateway.view, Gateway.setHandler, *]
    | cons sub subs =>
      dsimp only [Gateway.advance]
      split
      · cases payload with
        | message phoneNumber messageID =>
          dsimp only
          split <;> simp [Gateway.view, Gateway.setHandler, *]
        | session event phoneNumber jid timestamp evt =>
          dsimp only
          split <;> simp [Gateway.view, Gateway.setHandler, *]
      · simp [Gateway.view, Gateway.setHandler, *]

/-! ### Whose the JIDs are -/

namespace Owned

theorem setHandler (hs : Owned owner s) (phone : String) (k : Nat) {next : Option Handling}
    (hnext : ∀ h, next = some h → h.OwnedBy owner phone) :
    Owned owner (s.setHandler phone k next) where
  clients := hs.clients
  jids := hs.jids
  handlers {phone' k' h} hh := by
    simp only [Gateway.setHandler] at hh
    by_cases hphone : phone' = phone
    · subst hphone
      rw [Function.update_self] at hh
      by_cases hk : k' = k
      · subst hk
        rw [Function.update_self] at hh
        exact hnext h hh
      · rw [Function.update_of_ne hk] at hh
        exact hs.handlers hh
    · rw [Function.update_of_ne hphone] at hh
      exact hs.handlers hh

theorem setJID (hs : Owned owner s) {phone jid : String} (hjid : owner jid = phone) :
    Owned owner (s.setJID phone jid) := by
  unfold Gateway.setJID
  split
  · exact hs
  · refine ⟨hs.clients, ?_, hs.handlers⟩
    intro phone' hne
    dsimp only at hne ⊢
    by_cases hphone : phone' = phone
    · subst hphone
      rw [Function.update_self]
      exact hjid
    · rw [Function.update_of_ne hphone] at hne ⊢
      exact hs.jids phone' hne

theorem setClient (hs : Owned owner s) {phone : String} {client : Option (Option String)}
    (hclient : ∀ jid, client = some (some jid) → owner jid = phone) :
    Owned owner { s with clients := Function.update s.clients phone client } where
  clients {phone' jid} hh := by
    dsimp only at hh
    by_cases hphone : phone' = phone
    · subst hphone
      rw [Function.update_self] at hh
      exact hclient jid hh
    · rw [Function.update_of_ne hphone] at hh
      exact hs.clients hh
  jids := hs.jids
  handlers := hs.handlers

theorem sessionJID (hs : Owned owner s) (phone : String) :
    Owned owner (s.sessionJID phone).1 ∧
      ((s.sessionJID phone).2 ≠ "" → owner (s.sessionJID phone).2 = phone) := by
  unfold Gateway.sessionJID
  split
  next jid hclient =>
    have hjid := hs.clients hclient
    exact ⟨hs.setJID hjid, fun _ => hjid⟩
  next => exact ⟨hs, hs.jids phone⟩

/-- What does not touch the clients, the JIDs and the handlers. -/
theorem congr (hs : Owned owner s) (hclients : t.clients = s.clients) (hjids : t.jids = s.jids)
    (hhandlers : t.handlers = s.handlers) : Owned owner t where
  clients {phone jid} hh := hs.clients (by rwa [hclients] at hh)
  jids phone hh := by
    rw [hjids] at hh ⊢
    exact hs.jids phone hh
  handlers {phone k h} hh := hs.handlers (by rwa [hhandlers] at hh)

theorem advance (hs : Owned owner s) (hown : h.OwnedBy owner phone) (k : Nat) (env : StepEnv) :
    Owned owner (s.advance phone k env h) := by
  have hdone : Owned owner (s.setHandler phone k none) :=
    hs.setHandler phone k fun _ hnext => nomatch hnext
  have hnext (next : Handling) (howned : next.OwnedBy owner phone) :
      Owned owner (s.setHandler phone k (some next)) :=
    hs.setHandler phone k fun _ heq => Option.some.inj heq ▸ howned
  cases h with
  | captured jid traceID messageID =>
    dsimp only [Gateway.advance]
    split
    · exact hdone.congr rfl rfl rfl
    · split
      · exact hnext _ hown
      · exact hdone
  | direct jid messageID =>
    dsimp only [Gateway.advance]
    split
    · exact hnext _ trivial
    · exact hdone
  | lifecycle jid h todo =>
    cases todo with
    | nil => exact hdone
    | cons effect todo =>
      have hrest := hnext (.lifecycle jid h todo) hown
      cases effect with
      | recordSessionStatus state reason banExpiresAt => exact hrest.congr rfl rfl rfl
      | evict => exact hrest.setClient fun _ hclient => nomatch hclient
      | dispatch event =>
        dsimp only [Gateway.advance]
        split
        · exact hnext _ trivial
        · exact hdone
  | fanOut payload event subs =>
    cases subs with
    | nil => exact hdone
    | cons sub subs =>
      have hrest := hnext (.fanOut payload event subs) trivial
      dsimp only [Gateway.advance]
      split
      · cases payload with
        | message phoneNumber messageID =>
          dsimp only
          split
          · exact hrest.congr rfl rfl rfl
          · exact hrest
        | session event phoneNumber jid timestamp evt =>
          dsimp only
          split
          · exact hrest.congr rfl rfl rfl
          · exact hrest
      · exact hrest

theorem step (hs : Owned owner s) {a : AccountAction} (hissued : a.Issued owner) :
    Owned owner (s.step a) := by
  cases a with
  | initClient phone jid =>
    dsimp only [Gateway.step]
    split
    · refine hs.setClient ?_
      rintro _ ⟨⟩
      exact hissued
    · exact hs
  | storeID phone jid =>
    dsimp only [Gateway.step]
    split
    · exact hs
    · refine hs.setClient ?_
      rintro _ ⟨⟩
      exact hissued
  | evict phone => exact hs.setClient fun _ hclient => nomatch hclient
  | message phone k fromMe traceID messageID =>
    dsimp only [Gateway.step]
    split
    · exact hs
    · split
      next jid hclient =>
        have hjid := hs.clients hclient
        exact (hs.setJID hjid).setHandler phone k fun _ heq => Option.some.inj heq ▸ hjid
      next => exact hs
  | lifecycle k h =>
    dsimp only [Gateway.step]
    split
    · exact hs
    · obtain ⟨howned, hjid⟩ := hs.sessionJID h.phoneNumber
      exact howned.setHandler h.phoneNumber k fun _ heq => Option.some.inj heq ▸ ⟨rfl, hjid⟩
  | advance phone k env =>
    dsimp only [Gateway.step]
    split
    next h hh => exact hs.advance (hs.handlers hh) k env
    next => exact hs
  | subscription phone call => exact hs.congr rfl rfl rfl

end Owned

/-! ### The accounts are isolated -/

theorem onClient_client (call : SubscriptionCall) (jid : Option String) :
    (call.onClient jid).client = jid := by
  cases call <;> rfl

/-- A step on behalf of another account. -/
theorem view_step_of_ne (hs : Owned owner s) {a : AccountAction} (hother : phone ≠ a.phone) :
    (s.step a).view owner phone = s.view owner phone := by
  cases a with
  | initClient other jid =>
    dsimp only [AccountAction.phone] at hother
    dsimp only [Gateway.step]
    split
    · exact view_setClient_of_ne owner phone hother s _
    · rfl
  | storeID other jid =>
    dsimp only [AccountAction.phone] at hother
    dsimp only [Gateway.step]
    split
    · rfl
    · exact view_setClient_of_ne owner phone hother s _
  | evict other => exact view_setClient_of_ne owner phone hother s none
  | message other k fromMe traceID messageID =>
    dsimp only [AccountAction.phone] at hother
    dsimp only [Gateway.step]
    split
    · rfl
    · split
      · rw [view_setHandler_of_ne owner phone hother, view_setJID_of_ne owner phone hother]
      · rfl
  | lifecycle k h =>
    dsimp only [AccountAction.phone] at hother
    dsimp only [Gateway.step]
    split
    · rfl
    · rw [view_setHandler_of_ne owner phone hother, view_sessionJID_of_ne owner phone hother]
  | advance other k env =>
    dsimp only [Gateway.step]
    split
    next h hh => exact view_advance_of_ne owner hother s k env (hs.handlers hh)
    next => rfl
  | subscription other call =>
    have hkeep : ∀ jid, (call.onClient (s.clients other).join).client = some jid →
        decide (owner jid = phone) = false := by
      intro jid hjid
      rw [onClient_client, Option.join_eq_some_iff] at hjid
      rw [decide_eq_false_iff_not, hs.clients hjid]
      exact hother.symm
    dsimp only [Gateway.step, Gateway.view]
    rw [@filter_apply_of_not_keep (fun jid => owner jid = phone) _ hkeep]

/-- A step on behalf of the account itself. -/
theorem view_step_congr (hs : Owned owner s) {a : AccountAction}
    (hmine : a.phone = phone) (hview : s.view owner phone = t.view owner phone) :
    (s.step a).view owner phone = (t.step a).view owner phone := by
  have hclients : s.clients phone = t.clients phone := congrArg AccountView.client hview
  have hjids : s.jids phone = t.jids phone := congrArg AccountView.jid hview
  have hstatuses : s.statuses phone = t.statuses phone := congrArg AccountView.status hview
  have hrows := congrArg AccountView.rows hview
  have hhandlers : s.handlers phone = t.handlers phone := congrArg AccountView.handlers hview
  have hpublished := congrArg AccountView.published hview
  have hwebhooks := congrArg AccountView.webhooks hview
  dsimp only [Gateway.view] at hrows hpublished hwebhooks
  have hsetJID (jid : String) :
      (s.setJID phone jid).view owner phone = (t.setJID phone jid).view owner phone := by
    unfold Gateway.setJID
    split
    · exact hview
    · simp [Gateway.view, *]
  have hsetHandler {s t : Gateway} (hview : s.view owner phone = t.view owner phone) (k : Nat)
      (next : Option Handling) :
      (s.setHandler phone k next).view owner phone =
        (t.setHandler phone k next).view owner phone := by
    have hhandlers : s.handlers phone = t.handlers phone := congrArg AccountView.handlers hview
    rw [view_setHandler_self, view_setHandler_self, hview, hhandlers]
  cases a with
  | initClient other jid =>
    obtain rfl : other = phone := hmine
    dsimp only [Gateway.step]
    rw [← hclients]
    split
    · simp [Gateway.view, *]
    · exact hview
  | storeID other jid =>
    obtain rfl : other = phone := hmine
    dsimp only [Gateway.step]
    rw [← hclients]
    split
    · exact hview
    · simp [Gateway.view, *]
  | evict other =>
    obtain rfl : other = phone := hmine
    simp [Gateway.step, Gateway.view, *]
  | message other k fromMe traceID messageID =>
    obtain rfl : other = phone := hmine
    dsimp only [Gateway.step]
    rw [← hclients, ← hhandlers]
    split
    · exact hview
    · split
      · exact hsetHandler (hsetJID _) k _
      · exact hview
  | lifecycle k h =>
    obtain rfl : h.phoneNumber = phone := hmine
    dsimp only [Gateway.step, Gateway.sessionJID]
    rw [← hclients, ← hhandlers, ← hjids]
    split
    · exact hview
    · split
      · exact hsetHandler (hsetJID _) k _
      · exact hsetHandler hview k _
  | advance other k env =>
    obtain rfl : other = phone := hmine
    dsimp only [Gateway.step]
    rw [← hhandlers]
    split
    next h hh => exact view_advance_congr hview k env (hs.handlers hh)
    next => exact hview
  | subscription other call =>
    obtain rfl : other = phone := hmine
    have hkeep : ∀ jid, (call.onClient (s.clients other).join).client = some jid →
        decide (owner jid = other) = true := by
      intro jid hjid
      rw [onClient_client, Option.join_eq_some_iff] at hjid
      exact decide_eq_true (hs.clients hjid)
    have hrows' := @filter_apply_of_keep (fun jid => owner jid = other) _ hkeep
    dsimp only [Gateway.step]
    rw [← hclients]
    simp only [Gateway.view, AccountView.mk.injEq]
    refine ⟨hclients, hjids, hstatuses, ?_, hhandlers, hpublished, hwebhooks⟩
    rw [hrows' s.rows, hrows' t.rows, hrows]

theorem accounts_isolates (owner : String → String) (phone : String) :
    Isolates Gateway.step (AccountAction.Issued owner) (Owned owner)
      (fun a => a.phone = phone) (Gateway.view owner phone) where
  keeps hissued hs := hs.step hissued
  confined _ hs hother := view_step_of_ne hs (Ne.symm hother)
  own hs hmine hview := view_step_congr hs hmine hview

/-- The JID of the account was seen, and the client has no other. -/
structure KnownAs (phone jid : String) (s : Gateway) : Prop where
  cached : s.jids phone = jid
  client : ∀ {other}, s.clients phone = some (some other) → other = jid

/-- The step pairs the account under another JID. -/
def AccountAction.PairsOther (phone jid : String) : AccountAction → Prop
  | .initClient other (some new) | .storeID other (some new) => other = phone ∧ new ≠ jid
  | _ => False

namespace KnownAs

variable {jid : String}

theorem congr (hs : KnownAs phone jid s) (hclients : t.clients = s.clients)
    (hjids : t.jids = s.jids) : KnownAs phone jid t where
  cached := by rw [hjids, hs.cached]
  client {other} hclient := hs.client (by rwa [hclients] at hclient)

theorem setClient (hs : KnownAs phone jid s) {other : String} {client : Option (Option String)}
    (hclient : ∀ new, client = some (some new) → other = phone → new = jid) :
    KnownAs phone jid { s with clients := Function.update s.clients other client } where
  cached := hs.cached
  client {new} hnew := by
    dsimp only at hnew
    by_cases hphone : phone = other
    · subst hphone
      rw [Function.update_self] at hnew
      exact hclient new hnew rfl
    · rw [Function.update_of_ne hphone] at hnew
      exact hs.client hnew

theorem setJID (hs : KnownAs phone jid s) {other new : String} (hnew : other = phone → new = jid) :
    KnownAs phone jid (s.setJID other new) := by
  unfold Gateway.setJID
  split
  · exact hs
  · refine ⟨?_, hs.client⟩
    dsimp only
    by_cases hphone : phone = other
    · subst hphone
      rw [Function.update_self, hnew rfl]
    · rw [Function.update_of_ne hphone, hs.cached]

/-- What a live client says is what is known. -/
theorem live (hs : KnownAs phone jid s) {other new : String}
    (hclient : s.clients other = some (some new)) : other = phone → new = jid := by
  rintro rfl
  exact hs.client hclient

theorem sessionJID (hs : KnownAs phone jid s) (other : String) :
    KnownAs phone jid (s.sessionJID other).1 := by
  unfold Gateway.sessionJID
  split
  next new hclient => exact hs.setJID (hs.live hclient)
  next => exact hs

theorem sessionJID_eq (hs : KnownAs phone jid s) : (s.sessionJID phone).2 = jid := by
  unfold Gateway.sessionJID
  split
  next new hclient => exact hs.client hclient
  next => exact hs.cached

theorem advance (hs : KnownAs phone jid s) (other : String) (k : Nat) (env : StepEnv)
    (h : Handling) : KnownAs phone jid (s.advance other k env h) := by
  have hset (next : Option Handling) : KnownAs phone jid (s.setHandler other k next) :=
    hs.congr rfl rfl
  cases h with
  | captured new traceID messageID =>
    dsimp only [Gateway.advance]
    split
    · exact hs.congr rfl rfl
    · exact hset _
  | direct new messageID => exact hset _
  | lifecycle new h todo =>
    cases todo with
    | nil => exact hset _
    | cons effect todo =>
      cases effect with
      | recordSessionStatus state reason banExpiresAt => exact hs.congr rfl rfl
      | evict => exact (hset _).setClient fun _ hclient => nomatch hclient
      | dispatch event => exact hset _
  | fanOut payload event subs =>
    cases subs with
    | nil => exact hset _
    | cons sub subs =>
      dsimp only [Gateway.advance]
      split
      · cases payload <;>
        · dsimp only
          split
          · exact hs.congr rfl rfl
          · exact hset _
      · exact hset _

theorem step (hs : KnownAs phone jid s) {a : AccountAction} (ha : ¬a.PairsOther phone jid) :
    KnownAs phone jid (s.step a) := by
  cases a with
  | initClient other new =>
    dsimp only [Gateway.step]
    split
    · refine hs.setClient ?_
      rintro _ ⟨⟩ hphone
      exact not_not.mp fun hne => ha ⟨hphone, hne⟩
    · exact hs
  | storeID other new =>
    dsimp only [Gateway.step]
    split
    · exact hs
    · refine hs.setClient ?_
      rintro _ ⟨⟩ hphone
      exact not_not.mp fun hne => ha ⟨hphone, hne⟩
  | evict other => exact hs.setClient fun _ hclient => nomatch hclient
  | message other k fromMe traceID messageID =>
    dsimp only [Gateway.step]
    split
    · exact hs
    · split
      next new hclient => exact (hs.setJID (hs.live hclient)).congr rfl rfl
      next => exact hs
  | lifecycle k h =>
    dsimp only [Gateway.step]
    split
    · exact hs
    · exact (hs.sessionJID h.phoneNumber).congr rfl rfl
  | advance other k env =>
    dsimp only [Gateway.step]
    split
    · exact hs.advance other k env _
    · exact hs
  | subscription other call => exact hs.congr rfl rfl

theorem steps (hs : KnownAs phone jid s) {actions : List AccountAction}
    (hactions : ∀ a ∈ actions, ¬a.PairsOther phone jid) :
    KnownAs phone jid (actions.foldl Gateway.step s) := by
  induction actions generalizing s with
  | nil => exact hs
  | cons a actions ih =>
    obtain ⟨ha, hrest⟩ := List.forall_mem_cons.mp hactions
    exact ih (hs.step ha) hrest

end KnownAs

/-- Once an event has found a client with a JID, each lifecycle event of the account is handled
for that JID, whether the client has been logged out, has lost its device or is gone; until the
account is paired under another. -/
theorem session_jid_kept {jid : String} (hlive : s.clients phone = some (some jid))
    (hjid : jid ≠ "") (actions : List AccountAction)
    (hactions : ∀ a ∈ actions, ¬a.PairsOther phone jid) (k : Nat) (h : Handled)
    (hphone : h.phoneNumber = phone)
    (hfree : (actions.foldl Gateway.step (s.sessionJID phone).1).handlers phone k = none) :
    ((actions.foldl Gateway.step (s.sessionJID phone).1).step (.lifecycle k h)).handlers phone k =
      some (.lifecycle jid h (handleEvent h.handledAt h.event)) := by
  have hseen : KnownAs phone jid (s.sessionJID phone).1 := by
    rw [Gateway.sessionJID, hlive]
    dsimp only
    rw [Gateway.setJID, if_neg hjid]
    refine ⟨Function.update_self .., ?_⟩
    intro other hother
    exact (Option.some.inj (Option.some.inj (hlive.symm.trans hother))).symm
  have hknown := hseen.steps hactions
  subst hphone
  dsimp only [Gateway.step]
  rw [if_neg (not_not.mpr hfree), hknown.sessionJID_eq, Gateway.setHandler]
  dsimp only
  rw [Function.update_self, Function.update_self]

section Sample

/-- Nothing is registered yet. -/
def Gateway.init : Gateway where
  clients _ := none
  jids _ := ""
  statuses _ := none
  rows := []
  handlers _ _ := none
  published := []
  webhooks := []

theorem Owned.init (owner : String → String) : Owned owner Gateway.init where
  clients h := nomatch h
  jids _ h := absurd rfl h
  handlers h := nomatch h

def sampleOwner (jid : String) : String :=
  if jid = "491:1@s.whatsapp.net" then "491" else "492"

theorem session_jid_kept_logged_out :
    (([.storeID "491" none, .evict "491"].foldl Gateway.step
        ((Gateway.init.step (.initClient "491" (some "491:1@s.whatsapp.net"))).sessionJID
          "491").1).step (.lifecycle 0 ⟨"491", .loggedOut false "", 5, 6, true⟩)).handlers "491" 0 =
      some (.lifecycle "491:1@s.whatsapp.net" ⟨"491", .loggedOut false "", 5, 6, true⟩
        (handleEvent 5 (.loggedOut false ""))) := by
  have hlive : (Gateway.init.step (.initClient "491" (some "491:1@s.whatsapp.net"))).clients "491" =
      some (some "491:1@s.whatsapp.net") := rfl
  refine session_jid_kept hlive (by decide) _ ?_ 0 _ rfl rfl
  simp [AccountAction.PairsOther]

end Sample

end WhatsappGateway.Whatsapp
