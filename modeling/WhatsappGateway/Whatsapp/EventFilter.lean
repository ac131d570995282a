import WhatsappGateway.Lib.Fallible
import WhatsappGateway.Lib.Trim
import WhatsappGateway.Queue.EventHandlers
import WhatsappGateway.Whatsapp.ClientErrors
import WhatsappGateway.Whatsapp.WebhookBackfill

/-!
The events that a webhook subscription is for. A list of them is checked against the catalogue,
joined into one text and stored; the text is split again when an event is matched, and when the
subscriptions are listed.
-/

namespace WhatsappGateway.Whatsapp

open Lib Events

def webhookEventCatalog : List String :=
  [eventMessageIncoming, "message.queued", "message.sent", "message.failed",
    "session.logged_out", "session.banned", "session.connect_failure", "session.connected",
    "session.disconnected", "session.replaced", "session.reachout_timelocked"]

def isKnownEvent (e : String) : Bool := webhookEventCatalog.contains e

/-- `strings.TrimSpace`. -/
def trimmed (e : String) : String := String.ofList (trimSpace e.toList)

structure Webhook where
  url : String
  hmacSecret : String
  events : List String
deriving DecidableEq, Repr

/-- What setting a subscription comes upon: the login status, the check of a URL, the encryption
of a secret, the JID of the client and the error of the statement. -/
structure SetEnv where
  loginStatus : Except Err Bool
  validateURL : String → Option Err
  encrypt : String → Except Err String
  client : Option String
  exec : Option Err

/-- An error; the encryption's own has no kind. -/
inductive SetError where
  | domain (err : DomainError)
  | encrypt (err : Err)

def webhookLoginGate (env : SetEnv) : Except SetError Unit :=
  match env.loginStatus with
  | .error err => .error (.domain ⟨.internalFailure, err⟩)
  | .ok false => .error (.domain ⟨.conflict, .new "unauthorized\nclient not logged in"⟩)
  | .ok true => .ok ()

/-- The first event of a list that is not in the catalogue. -/
def checkEvents (events : List String) : Except SetError Unit :=
  match events.find? fun e => !isKnownEvent (trimmed e) with
  | some e => .error (.domain ⟨.badRequest, .new ("unknown event type: " ++ e)⟩)
  | none => .ok ()

/-- An empty secret is stored as it is. -/
def encryptSecret (env : SetEnv) (hmacSecret : String) : Except SetError String :=
  if hmacSecret ≠ "" then (env.encrypt hmacSecret).mapError .encrypt else .ok hmacSecret

/-- `SetWebhookSubscription` of the client: the upsert of a row. -/
def clientSetSubscription (env : SetEnv) (subs : Backfill.Subscriptions) (webhook : Webhook) :
    Except SetError Backfill.Subscriptions :=
  match env.client with
  | none => .error (.domain ⟨.notFound, .new errClientNotFound⟩)
  | some jid =>
    let events := ",".intercalate webhook.events
    match env.exec with
    | some err => .error (.domain ⟨.internalFailure, err⟩)
    | none => .ok (Function.update subs (jid, webhook.url) (some ⟨webhook.hmacSecret, events⟩))

/-- `SetWebhookSubscription` of the manager. The events are checked before the URL. -/
def setWebhookSubscription (env : SetEnv) (subs : Backfill.Subscriptions) (webhook : Webhook) :
    Except SetError Backfill.Subscriptions := do
  webhookLoginGate env
  checkEvents webhook.events
  match env.validateURL webhook.url with
  | some err => .error (.domain ⟨.badRequest, err⟩)
  | none =>
    let hmacSecret ← encryptSecret env webhook.hmacSecret
    clientSetSubscription env subs { webhook with hmacSecret }

/-- A stored filter as the listing shows it. -/
def splitEvents (events : String) : List String :=
  if trimSpace events.toList = [] then []
  else (((splitComma events.toList).map trimSpace).filter (· ≠ [])).map String.ofList

variable {env : SetEnv} {subs stored : Backfill.Subscriptions} {webhook : Webhook}
  {events : List String} {e : String}

/-! ### Splitting what was joined -/

theorem splitComma_eq_splitOn (text : List Char) : splitComma text = text.splitOn ',' := by
  induction text with
  | nil => rfl
  | cons c text ih =>
    rw [splitComma, List.splitOn_cons_eq_if_modifyHead, ih]
    by_cases hc : c = ','
    · rw [if_pos hc, if_pos (beq_iff_eq.mpr hc)]
    · rw [if_neg hc, if_neg (by simpa using hc)]
      obtain ⟨part, parts, hsplit⟩ := List.exists_cons_of_ne_nil (List.splitOn_ne_nil ',' text)
      rw [hsplit]
      rfl

/-- An entry that is known has no comma. -/
theorem comma_not_mem (hknown : isKnownEvent (trimmed e) = true) : ',' ∉ e.toList := by
  have hcatalog : ∀ e ∈ webhookEventCatalog, ',' ∉ e.toList := by decide +kernel
  have htrimmed : ',' ∉ (trimmed e).toList :=
    hcatalog _ (List.contains_iff_mem.mp hknown)
  obtain ⟨left, right, heq, hleft, hright⟩ := exists_append_trim isSpace e.toList
  rw [trimmed, String.toList_ofList] at htrimmed
  rw [heq]
  intro hmem
  rcases List.mem_append.mp hmem with hmem | hmem
  · rcases List.mem_append.mp hmem with hmem | hmem
    · exact absurd (hleft _ hmem) (by decide)
    · exact htrimmed hmem
  · exact absurd (hright _ hmem) (by decide)

/-- What a subscription that was accepted holds. -/
structure Accepted (events : List String) : Prop where
  known : ∀ e ∈ events, isKnownEvent (trimmed e) = true

theorem Accepted.of_checkEvents (h : checkEvents events = .ok ()) : Accepted events := by
  unfold checkEvents at h
  cases hfind : events.find? fun e => !isKnownEvent (trimmed e) with
  | some e =>
    rw [hfind] at h
    cases h
  | none =>
    constructor
    intro e he
    simpa using List.find?_eq_none.mp hfind e he

theorem Accepted.split (h : Accepted events) (hne : events ≠ []) :
    splitComma (",".intercalate events).toList = events.map String.toList := by
  have hcomma : ∀ entry ∈ events.map String.toList, ',' ∉ entry := by
    intro entry hentry
    obtain ⟨e, he, rfl⟩ := List.mem_map.mp hentry
    exact comma_not_mem (h.known e he)
  rw [splitComma_eq_splitOn, String.toList_intercalate]
  exact List.splitOn_intercalate ',' hcomma (by simpa using hne)

theorem Accepted.trimmed_ne_nil (h : Accepted events) (he : e ∈ events) :
    trimSpace e.toList ≠ [] := by
  have hcatalog : "" ∉ webhookEventCatalog := by decide +kernel
  intro hnil
  have hknown := List.contains_iff_mem.mp (h.known e he)
  rw [trimmed, hnil] at hknown
  exact hcatalog hknown

/-- The stored text of a list with entries is not all white space. -/
theorem Accepted.trim_ne_nil (h : Accepted events) (hne : events ≠ []) :
    trimSpace (",".intercalate events).toList ≠ [] := by
  obtain ⟨e, rest, rfl⟩ := List.exists_cons_of_ne_nil hne
  have hstart : e.toList <+: (",".intercalate (e :: rest)).toList := by
    rw [String.toList_intercalate, List.map_cons]
    cases rest.map String.toList with
    | nil => exact List.intercalate_singleton.symm ▸ List.prefix_rfl
    | cons next more =>
      rw [List.intercalate_cons_cons, List.append_assoc]
      exact List.prefix_append _ _
  intro hnil
  have hspaces := trim_eq_nil_iff.mp hnil
  exact h.trimmed_ne_nil List.mem_cons_self
    (trim_eq_nil_iff.mpr fun c hc => hspaces c (hstart.subset hc))

theorem eventMatches_empty (e : String) : eventMatches (",".intercalate []) e = true := rfl

/-- A stored list with entries matches those entries. -/
theorem Accepted.eventMatches_iff (h : Accepted events) :
    eventMatches (",".intercalate events) e = true ↔ events = [] ∨ e ∈ events.map trimmed := by
  by_cases hnil : events = []
  · rw [hnil]
    exact iff_of_true (eventMatches_empty e) (.inl rfl)
  · have hmatch : ∀ entry : String, trimSpace entry.toList = e.toList ↔ trimmed entry = e := by
      intro entry
      rw [trimmed, ← String.toList_inj, String.toList_ofList]
    rw [eventMatches, beq_eq_false_iff_ne.mpr (h.trim_ne_nil hnil), Bool.false_or, h.split hnil,
      or_iff_right hnil, List.any_map, List.any_eq_true, List.mem_map]
    apply exists_congr
    intro entry
    rw [Function.comp_apply, beq_iff_eq, hmatch]

theorem Accepted.splitEvents_eq (h : Accepted events) :
    splitEvents (",".intercalate events) = events.map trimmed := by
  by_cases hnil : events = []
  · rw [hnil]
    rfl
  · have hkept : ((events.map String.toList).map trimSpace).filter (· ≠ []) =
        (events.map String.toList).map trimSpace := by
      rw [List.filter_eq_self]
      intro entry hentry
      rw [List.map_map] at hentry
      obtain ⟨e, he, rfl⟩ := List.mem_map.mp hentry
      exact decide_eq_true (h.trimmed_ne_nil he)
    rw [splitEvents, if_neg (h.trim_ne_nil hnil), h.split hnil, hkept, List.map_map, List.map_map]
    rfl

/-! ### What is stored -/

theorem clientSetSubscription_ok (h : clientSetSubscription env subs webhook = .ok stored) :
    ∃ jid, env.client = some jid ∧
      stored = Function.update subs (jid, webhook.url)
        (some ⟨webhook.hmacSecret, ",".intercalate webhook.events⟩) := by
  unfold clientSetSubscription at h
  cases hclient : env.client with
  | none =>
    rw [hclient] at h
    cases h
  | some jid =>
    cases hexec : env.exec with
    | some err =>
      rw [hclient, hexec] at h
      cases h
    | none =>
      rw [hclient, hexec] at h
      cases h
      exact ⟨jid, rfl, rfl⟩

theorem setWebhookSubscription_ok (h : setWebhookSubscription env subs webhook = .ok stored) :
    Accepted webhook.events ∧ ∃ jid hmacSecret, env.client = some jid ∧
      stored = Function.update subs (jid, webhook.url)
        (some ⟨hmacSecret, ",".intercalate webhook.events⟩) := by
  simp only [setWebhookSubscription, bind_eq_ok] at h
  obtain ⟨_, hgate, _, hcheck, h⟩ := h
  refine ⟨.of_checkEvents hcheck, ?_⟩
  cases hurl : env.validateURL webhook.url with
  | some err =>
    rw [hurl] at h
    cases h
  | none =>
    rw [hurl] at h
    obtain ⟨hmacSecret, hsecret, h⟩ := bind_eq_ok.mp h
    obtain ⟨jid, hclient, rfl⟩ := clientSetSubscription_ok h
    exact ⟨jid, hmacSecret, hclient, rfl⟩

/-- A list that is accepted is stored so that exactly its events match, all of them when it is
empty, and so that it is listed as it was given, trimmed. -/
theorem event_filter_round_trip (env : SetEnv) (subs stored : Backfill.Subscriptions)
    (webhook : Webhook) (haccepted : setWebhookSubscription env subs webhook = .ok stored) :
    ∃ jid sub, env.client = some jid ∧ stored (jid, webhook.url) = some sub ∧
      (∀ e ∈ webhookEventCatalog, eventMatches sub.events e = true ↔
        webhook.events = [] ∨ e ∈ webhook.events.map trimmed) ∧
      splitEvents sub.events = webhook.events.map trimmed := by
  obtain ⟨hevents, jid, hmacSecret, hclient, rfl⟩ := setWebhookSubscription_ok haccepted
  refine ⟨jid, _, hclient, Function.update_self _ _ _, ?_, ?_⟩
  · exact fun e _ => hevents.eventMatches_iff
  · exact hevents.splitEvents_eq

/-- An event that is given twice, with white space around it. -/
def repeatedEvents : Webhook :=
  ⟨"https://example.test", "", [" message.sent", "message.sent\t"]⟩

def repeatedEnv : SetEnv := ⟨.ok true, fun _ => none, .ok, some "628111", none⟩

theorem event_filter_round_trip_repeated :
    ∃ stored : Backfill.Subscriptions,
      setWebhookSubscription repeatedEnv (fun _ => none) repeatedEvents = .ok stored ∧
      ∃ jid sub, repeatedEnv.client = some jid ∧ stored (jid, repeatedEvents.url) = some sub ∧
        (∀ e ∈ webhookEventCatalog, eventMatches sub.events e = true ↔
          repeatedEvents.events = [] ∨ e ∈ repeatedEvents.events.map trimmed) ∧
        splitEvents sub.events = repeatedEvents.events.map trimmed :=
  ⟨_, rfl, event_filter_round_trip repeatedEnv (fun _ => none) _ repeatedEvents rfl⟩

end WhatsappGateway.Whatsapp
