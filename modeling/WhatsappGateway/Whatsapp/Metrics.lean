import Mathlib
import WhatsappGateway.Lib.Exposition
import WhatsappGateway.Whatsapp.DeliverySlots
import WhatsappGateway.Whatsapp.SessionMerge

/-!
The metrics of sends, of webhooks that are delivered directly, and of sessions. Goroutines record
what became of a delivery before they give their token back, and a scrape takes a snapshot of one
counter after the other; between any two of these steps others come in. What is recorded accounts
for every webhook that was handed over.
-/

namespace WhatsappGateway.Metrics

open Lib Exposition Whatsapp Events Duration

/-- The values by rendered labels. -/
abbrev Counter := Tally String

def metricsNamespace : String := "whatsapp_gateway"

/-- `failed` tells whether there is an error. -/
def result (failed : Bool) : String := if failed then "failure" else "success"

section Render

variable (graphic : Char → Bool)

def sendLabels (msgType mode : String) (failed : Bool) : String :=
  "\x7btype=" ++ quote graphic msgType ++ ",mode=" ++ quote graphic mode ++ ",result=" ++
    quote graphic (result failed) ++ "\x7d"

def webhookLabels (mode event : String) (failed : Bool) : String :=
  "\x7bresult=" ++ quote graphic (result failed) ++ ",mode=" ++ quote graphic mode ++ ",event=" ++
    quote graphic event ++ "\x7d"

def recordSend (messages : Counter) (msgType mode : String) (failed : Bool) : Counter :=
  messages.inc (sendLabels graphic msgType mode failed)

def recordWebhook (webhooks : Counter) (mode event : String) (failed : Bool) : Counter :=
  webhooks.inc (webhookLabels graphic mode event failed)

def writeCounter (name help : String) (vals : Counter) (order : Tally.Order vals) : String :=
  let full := metricsNamespace ++ "_" ++ name
  "# HELP " ++ full ++ " " ++ help ++ "\n# TYPE " ++ full ++ " counter\n" ++
    String.join ((sortOn id order.keys).map fun k =>
      full ++ k ++ " " ++ toString ((vals.lookup k).getD 0) ++ "\n")

/-- `states` is what the source of the gauge gives, if one is registered. -/
def writeSessions (states : Option Counter) (order : ∀ m : Counter, Tally.Order m) : String :=
  let full := metricsNamespace ++ "_sessions"
  "# HELP " ++ full ++ " Current WhatsApp sessions by state (per instance).\n# TYPE " ++ full ++
    " gauge\n" ++
    match states with
    | none => ""
    | some states => String.join ((sortOn id (order states).keys).map fun s =>
        full ++ "\x7bstate=" ++ quote graphic s ++ "\x7d " ++
          toString ((states.lookup s).getD 0) ++ "\n")

/-- `order` is the order in which each map is gone through. -/
def render (messages webhooks : Counter) (states : Option Counter)
    (order : ∀ m : Counter, Tally.Order m) : String :=
  writeCounter "messages_total" "Total outbound message send attempts." messages
      (order messages) ++
    writeCounter "webhook_deliveries_total" "Total webhook delivery attempts." webhooks
      (order webhooks) ++
    writeSessions graphic states order

end Render

/-- The states that are there with no session in them. -/
def sessionStates : List String :=
  ["connected", "disconnected", "never_paired", "logged_out", "banned"]

def tallyStates (inventory : Except Err (List SessionInventoryItem)) : Counter :=
  let states := sessionStates.foldl (fun states state => states.insert state 0) ∅
  match inventory with
  | .error _ => states
  | .ok sessions => (sessions.map SessionInventoryItem.state).foldl Tally.inc states

/-! ### Who records, and who reads -/

/-- A goroutine of the handler has the deliveries of its message ahead, of which it has recorded
the first ones. -/
inductive HandlerPhase where
  | called
  | delivering (query : Query) (building recorded : Nat)

/-- A call of `SendAsync`: one that took a token returns from `sendWithRetry`, records the outcome
and gives the token back; one that found none records the drop. -/
inductive SenderPhase where
  | called
  | returned (env : DeliveryEnv)
  | recorded (env : DeliveryEnv)
  | dropRecorded

inductive Scrape where
  | messages (messages : Counter)
  | webhooks (messages webhooks : Counter)
  | served (text : String)

structure System where
  handler : Slots (MessageTask × HandlerPhase) (List Attempt)
  sender : Slots (AsyncWebhook × SenderPhase) (DeliveryEnv × Delivery)
  messages : Counter
  webhooks : Counter
  scrapes : List Scrape

def System.init : System := ⟨.empty, .empty, ∅, ∅, []⟩

inductive Action where
  | recordSend (msgType mode : String) (failed : Bool)
  | asyncDeliverWebhook (msg : MessageTask)
  | startDelivery (k : Nat) (query : Query) (building : Nat)
  /-- the next delivery of the handler's `k`th goroutine is recorded; after the last, it returns -/
  | deliver (k : Nat)
  | sendAsync (webhook : AsyncWebhook)
  | sendReturns (k : Nat) (env : DeliveryEnv)
  | recordSent (k : Nat)
  | endSend (k : Nat)
  | recordDrop (k : Nat)
  | scrape
  | scrapeWebhooks (j : Nat)
  | scrapeSessions (j : Nat) (inventory : Except Err (List SessionInventoryItem))
      (order : ∀ m : Counter, Tally.Order m)

section Step

variable (graphic : Char → Bool) (cfg : RetryConfig)

def sendFailed (env : DeliveryEnv) : Bool :=
  ((newWebhookSender cfg).sendWithRetry env).err.isSome

def step (s : System) : Action → Option System
  | .recordSend msgType mode failed =>
    some { s with messages := recordSend graphic s.messages msgType mode failed }
  | .asyncDeliverWebhook msg =>
    some { s with handler := s.handler.offer maxConcurrentWebhooks (msg, .called) }
  | .startDelivery k query building =>
    match s.handler.running[k]? with
    | some (msg, .called) => some { s with
        handler := s.handler.setRunning k (msg, .delivering query building 0) }
    | _ => none
  | .deliver k =>
    match s.handler.running[k]? with
    | some (msg, .delivering query building recorded) =>
      match (deliverWebhook query building)[recorded]? with
      | some attempt => some { s with
          handler := s.handler.setRunning k (msg, .delivering query building (recorded + 1))
          webhooks := recordWebhook graphic s.webhooks "direct" eventMessageIncoming
            !attempt.delivered }
      | none => (s.handler.finish k fun _ => deliverWebhook query building).map fun handler =>
          { s with handler := handler }
    | _ => none
  | .sendAsync webhook =>
    some { s with sender := s.sender.offer maxConcurrentWebhooks (webhook, .called) }
  | .sendReturns k env =>
    match s.sender.running[k]? with
    | some (webhook, .called) => some { s with
        sender := s.sender.setRunning k (webhook, .returned env) }
    | _ => none
  | .recordSent k =>
    match s.sender.running[k]? with
    | some (webhook, .returned env) => some { s with
        sender := s.sender.setRunning k (webhook, .recorded env)
        webhooks := recordWebhook graphic s.webhooks "direct" webhook.event (sendFailed cfg env) }
    | _ => none
  | .endSend k =>
    match s.sender.running[k]? with
    | some (_, .recorded env) =>
      (s.sender.finish k fun _ => (env, (newWebhookSender cfg).sendWithRetry env)).map
        fun sender => { s with sender := sender }
    | _ => none
  | .recordDrop k =>
    match s.sender.dropped[k]? with
    | some (webhook, .called) => some { s with
        sender := s.sender.setDropped k (webhook, .dropRecorded)
        webhooks := recordWebhook graphic s.webhooks "direct" webhook.event true }
    | _ => none
  | .scrape => some { s with scrapes := s.scrapes ++ [.messages s.messages] }
  | .scrapeWebhooks j =>
    match s.scrapes[j]? with
    | some (.messages messages) => some { s with
        scrapes := s.scrapes.set j (.webhooks messages s.webhooks) }
    | _ => none
  | .scrapeSessions j inventory order =>
    match s.scrapes[j]? with
    | some (.webhooks messages webhooks) => some { s with
        scrapes := s.scrapes.set j
          (.served (render graphic messages webhooks (some (tallyStates inventory)) order)) }
    | _ => none

/-- The steps in cases. -/
inductive Stepped (s : System) : Action → System → Prop where
  | recordSend (msgType mode : String) (failed : Bool) : Stepped s (.recordSend msgType mode failed)
      { s with messages := recordSend graphic s.messages msgType mode failed }
  | asyncDeliverWebhook (msg : MessageTask) : Stepped s (.asyncDeliverWebhook msg)
      { s with handler := s.handler.offer maxConcurrentWebhooks (msg, .called) }
  | startDelivery {k : Nat} {msg : MessageTask} (query : Query) (building : Nat)
      (hrunning : s.handler.running[k]? = some (msg, .called)) :
      Stepped s (.startDelivery k query building)
        { s with handler := s.handler.setRunning k (msg, .delivering query building 0) }
  | attempt {k building recorded : Nat} {msg : MessageTask} {query : Query} {attempt : Attempt}
      (hrunning : s.handler.running[k]? = some (msg, .delivering query building recorded))
      (hattempt : (deliverWebhook query building)[recorded]? = some attempt) :
      Stepped s (.deliver k)
        { s with
          handler := s.handler.setRunning k (msg, .delivering query building (recorded + 1))
          webhooks := recordWebhook graphic s.webhooks "direct" eventMessageIncoming
            !attempt.delivered }
  | endDelivery {k building recorded : Nat} {msg : MessageTask} {query : Query}
      {handler : Slots (MessageTask × HandlerPhase) (List Attempt)}
      (hrunning : s.handler.running[k]? = some (msg, .delivering query building recorded))
      (hdone : (deliverWebhook query building)[recorded]? = none)
      (hend : (s.handler.finish k fun _ => deliverWebhook query building) = some handler) :
      Stepped s (.deliver k) { s with handler := handler }
  | sendAsync (webhook : AsyncWebhook) : Stepped s (.sendAsync webhook)
      { s with sender := s.sender.offer maxConcurrentWebhooks (webhook, .called) }
  | sendReturns {k : Nat} {webhook : AsyncWebhook} (env : DeliveryEnv)
      (hrunning : s.sender.running[k]? = some (webhook, .called)) :
      Stepped s (.sendReturns k env)
        { s with sender := s.sender.setRunning k (webhook, .returned env) }
  | recordSent {k : Nat} {webhook : AsyncWebhook} {env : DeliveryEnv}
      (hrunning : s.sender.running[k]? = some (webhook, .returned env)) :
      Stepped s (.recordSent k)
        { s with
          sender := s.sender.setRunning k (webhook, .recorded env)
          webhooks := recordWebhook graphic s.webhooks "direct" webhook.event
            (sendFailed cfg env) }
  | endSend {k : Nat} {webhook : AsyncWebhook} {env : DeliveryEnv}
      {sender : Slots (AsyncWebhook × SenderPhase) (DeliveryEnv × Delivery)}
      (hrunning : s.sender.running[k]? = some (webhook, .recorded env))
      (hend : (s.sender.finish k fun _ => (env, (newWebhookSender cfg).sendWithRetry env)) =
        some sender) :
      Stepped s (.endSend k) { s with sender := sender }
  | recordDrop {k : Nat} {webhook : AsyncWebhook}
      (hdropped : s.sender.dropped[k]? = some (webhook, .called)) :
      Stepped s (.recordDrop k)
        { s with
          sender := s.sender.setDropped k (webhook, .dropRecorded)
          webhooks := recordWebhook graphic s.webhooks "direct" webhook.event true }
  | scrape : Stepped s .scrape { s with scrapes := s.scrapes ++ [.messages s.messages] }
  | scrapeWebhooks {j : Nat} {messages : Counter}
      (hscrape : s.scrapes[j]? = some (.messages messages)) :
      Stepped s (.scrapeWebhooks j)
        { s with scrapes := s.scrapes.set j (.webhooks messages s.webhooks) }
  | scrapeSessions {j : Nat} {messages webhooks : Counter}
      (inventory : Except Err (List SessionInventoryItem)) (order : ∀ m : Counter, Tally.Order m)
      (hscrape : s.scrapes[j]? = some (.webhooks messages webhooks)) :
      Stepped s (.scrapeSessions j inventory order)
        { s with
          scrapes := s.scrapes.set j
            (.served (render graphic messages webhooks (some (tallyStates inventory)) order)) }

end Step

variable {graphic : Char → Bool} {cfg : RetryConfig} {s t : System} {a : Action}
  {actions : List Action}

theorem step_stepped (h : step graphic cfg s a = some t) : Stepped graphic cfg s a t := by
  cases a with
  | recordSend msgType mode failed =>
    cases h
    exact .recordSend msgType mode failed
  | asyncDeliverWebhook msg =>
    cases h
    exact .asyncDeliverWebhook msg
  | startDelivery k query building =>
    simp only [step] at h
    split at h
    next hrunning =>
      cases h
      exact .startDelivery query building hrunning
    next => cases h
  | deliver k =>
    simp only [step] at h
    split at h
    next hrunning =>
      split at h
      next hattempt =>
        cases h
        exact .attempt hrunning hattempt
      next hdone =>
        obtain ⟨handler, hend, rfl⟩ := Option.map_eq_some_iff.mp h
        exact .endDelivery hrunning hdone hend
    next => cases h
  | sendAsync webhook =>
    cases h
    exact .sendAsync webhook
  | sendReturns k env =>
    simp only [step] at h
    split at h
    next hrunning =>
      cases h
      exact .sendReturns env hrunning
    next => cases h
  | recordSent k =>
    simp only [step] at h
    split at h
    next hrunning =>
      cases h
      exact .recordSent hrunning
    next => cases h
  | endSend k =>
    simp only [step] at h
    split at h
    next hrunning =>
      obtain ⟨sender, hend, rfl⟩ := Option.map_eq_some_iff.mp h
      exact .endSend hrunning hend
    next => cases h
  | recordDrop k =>
    simp only [step] at h
    split at h
    next hdropped =>
      cases h
      exact .recordDrop hdropped
    next => cases h
  | scrape =>
    cases h
    exact .scrape
  | scrapeWebhooks j =>
    simp only [step] at h
    split at h
    next hscrape =>
      cases h
      exact .scrapeWebhooks hscrape
    next => cases h
  | scrapeSessions j inventory order =>
    simp only [step] at h
    split at h
    next hscrape =>
      cases h
      exact .scrapeSessions inventory order hscrape
    next => cases h

/-! ### The deliveries behind the records -/

def Action.message? : Action → Option MessageTask
  | .asyncDeliverWebhook msg => some msg
  | _ => none

def Action.webhook? : Action → Option AsyncWebhook
  | .sendAsync webhook => some webhook
  | _ => none

/-- Without the phases, the deliveries are those of the handler and the sender. -/
def System.delivery (s : System) : DirectDelivery := ⟨s.handler.map Prod.fst, s.sender.map Prod.fst⟩

/-- Each step is one of the deliveries, or none. -/
theorem Stepped.delivery (h : Stepped graphic cfg s a t) :
    (t.delivery = s.delivery ∧ a.message? = none ∧ a.webhook? = none) ∨
      ∃ d, directStep cfg s.delivery d = some t.delivery ∧ d.message? = a.message? ∧
        d.webhook? = a.webhook? := by
  cases h with
  | recordSend | scrape | scrapeWebhooks | scrapeSessions => exact .inl ⟨rfl, rfl, rfl⟩
  | asyncDeliverWebhook msg =>
    refine .inr ⟨.asyncDeliverWebhook msg, ?_, rfl, rfl⟩
    simp only [System.delivery, Slots.map_offer]
    rfl
  | sendAsync webhook =>
    refine .inr ⟨.sendAsync webhook, ?_, rfl, rfl⟩
    simp only [System.delivery, Slots.map_offer]
    rfl
  | startDelivery _ _ hrunning | attempt hrunning _ =>
    refine .inl ⟨?_, rfl, rfl⟩
    exact congrArg₂ DirectDelivery.mk (Slots.map_setRunning hrunning rfl) rfl
  | sendReturns _ hrunning | recordSent hrunning =>
    refine .inl ⟨?_, rfl, rfl⟩
    exact congrArg₂ DirectDelivery.mk rfl (Slots.map_setRunning hrunning rfl)
  | recordDrop hdropped =>
    refine .inl ⟨?_, rfl, rfl⟩
    exact congrArg₂ DirectDelivery.mk rfl (Slots.map_setDropped hdropped rfl)
  | @endDelivery k building _ _ query _ _ _ hend =>
    refine .inr ⟨.delivered k query building, ?_, rfl, rfl⟩
    rw [directStep, System.delivery, Slots.map_finish hend]
    rfl
  | @endSend k _ env _ _ hend =>
    refine .inr ⟨.sent k env, ?_, rfl, rfl⟩
    rw [directStep, System.delivery, Slots.map_finish hend]
    rfl

/-- So every run is one of the deliveries, of the same messages and webhooks. -/
theorem run_delivery {guard : System → Action → Prop}
    (hrun : Run (step graphic cfg) guard s actions t) :
    ∃ directActions, Run (directStep cfg) (fun _ _ => True) s.delivery directActions t.delivery ∧
      directActions.filterMap DirectAction.message? = actions.filterMap Action.message? ∧
      directActions.filterMap DirectAction.webhook? = actions.filterMap Action.webhook? := by
  induction hrun with
  | nil s => exact ⟨[], .nil _, rfl, rfl⟩
  | cons _ hstep _ ih =>
    obtain ⟨directActions, hrest, hmessages, hwebhooks⟩ := ih
    rcases (step_stepped hstep).delivery with ⟨hsame, hmessage, hwebhook⟩ |
      ⟨d, hdirect, hmessage, hwebhook⟩
    · refine ⟨directActions, hsame ▸ hrest, ?_, ?_⟩
      · rw [List.filterMap_cons_none hmessage, hmessages]
      · rw [List.filterMap_cons_none hwebhook, hwebhooks]
    · refine ⟨d :: directActions, .cons trivial hdirect hrest, ?_, ?_⟩
      · rw [List.filterMap_cons, List.filterMap_cons, hmessage, hmessages]
      · rw [List.filterMap_cons, List.filterMap_cons, hwebhook, hwebhooks]

/-! ### What is recorded -/

structure SendRecord where
  msgType : String
  mode : String
  failed : Bool
deriving DecidableEq, Repr

structure WebhookRecord where
  mode : String
  event : String
  failed : Bool
deriving DecidableEq, Repr

def SendRecord.labels (r : SendRecord) : List (String × String) :=
  [("type", r.msgType), ("mode", r.mode), ("result", result r.failed)]

def WebhookRecord.labels (r : WebhookRecord) : List (String × String) :=
  [("result", result r.failed), ("mode", r.mode), ("event", r.event)]

def Action.send? : Action → Option SendRecord
  | .recordSend msgType mode failed => some ⟨msgType, mode, failed⟩
  | _ => none

def attemptRecord (attempt : Attempt) : WebhookRecord :=
  ⟨"direct", eventMessageIncoming, !attempt.delivered⟩

def handlerRecords : MessageTask × HandlerPhase → List WebhookRecord
  | (_, .called) => []
  | (_, .delivering query building recorded) =>
    ((deliverWebhook query building).take recorded).map attemptRecord

section Records

variable (cfg)

def senderRecords : AsyncWebhook × SenderPhase → List WebhookRecord
  | (webhook, .recorded env) => [⟨"direct", webhook.event, sendFailed cfg env⟩]
  | (webhook, .dropRecorded) => [⟨"direct", webhook.event, true⟩]
  | _ => []

/-- What the handler has recorded: the outcome of each delivery of a message. -/
def System.messageRecords (s : System) : List WebhookRecord :=
  s.handler.running.flatMap handlerRecords ++
    s.handler.ended.flatMap fun entry => entry.2.map attemptRecord

/-- What the sender has recorded: the outcome of each webhook that it was done with, and each
drop. -/
def System.senderRecords (s : System) : List WebhookRecord :=
  s.sender.running.flatMap (Metrics.senderRecords cfg) ++
    (s.sender.ended.map fun entry => ⟨"direct", entry.1.1.event, entry.2.2.err.isSome⟩) ++
    s.sender.dropped.flatMap (Metrics.senderRecords cfg)

def System.records (s : System) : List WebhookRecord :=
  s.messageRecords ++ s.senderRecords cfg

end Records

/-- What a step records of a webhook. -/
inductive Records (graphic : Char → Bool) (cfg : RetryConfig) (s t : System) : Prop where
  | none (hrecords : (t.records cfg).Perm (s.records cfg)) (hwebhooks : t.webhooks = s.webhooks)
  | one (r : WebhookRecord) (hrecords : (t.records cfg).Perm (r :: s.records cfg))
      (hwebhooks : t.webhooks = recordWebhook graphic s.webhooks r.mode r.event r.failed)

theorem Records.ofMessages (hmessages : t.messageRecords.Perm s.messageRecords)
    (hsender : t.sender = s.sender) (hwebhooks : t.webhooks = s.webhooks) :
    Records graphic cfg s t := by
  refine .none ?_ hwebhooks
  rw [System.records, System.records, System.senderRecords, System.senderRecords, hsender]
  exact hmessages.append_right _

theorem Records.ofSender (hhandler : t.handler = s.handler)
    (hsender : (t.senderRecords cfg).Perm (s.senderRecords cfg))
    (hwebhooks : t.webhooks = s.webhooks) : Records graphic cfg s t := by
  refine .none ?_ hwebhooks
  rw [System.records, System.records, System.messageRecords, System.messageRecords, hhandler]
  exact hsender.append_left _

theorem Records.oneOfSender {r : WebhookRecord} (hhandler : t.handler = s.handler)
    (hsender : (t.senderRecords cfg).Perm (r :: s.senderRecords cfg))
    (hwebhooks : t.webhooks = recordWebhook graphic s.webhooks r.mode r.event r.failed) :
    Records graphic cfg s t := by
  refine .one r ?_ hwebhooks
  rw [System.records, System.records, System.messageRecords, System.messageRecords, hhandler]
  exact (hsender.append_left _).trans List.perm_middle

/-- A goroutine of the handler has recorded the next delivery. -/
theorem perm_attempt {msg : MessageTask} {query : Query} {building recorded : Nat}
    {attempt : Attempt} (hattempt : (deliverWebhook query building)[recorded]? = some attempt) :
    (handlerRecords (msg, .delivering query building (recorded + 1))).Perm
      (attemptRecord attempt :: handlerRecords (msg, .delivering query building recorded)) := by
  rw [handlerRecords, handlerRecords, List.take_add_one, hattempt, List.map_append]
  exact List.perm_append_singleton _ _

/-- Those of a goroutine that ends stay recorded. -/
theorem messageRecords_finish {k building recorded : Nat} {msg : MessageTask} {query : Query}
    {handler : Slots (MessageTask × HandlerPhase) (List Attempt)}
    (hrunning : s.handler.running[k]? = some (msg, .delivering query building recorded))
    (hdone : (deliverWebhook query building)[recorded]? = none)
    (hend : (s.handler.finish k fun _ => deliverWebhook query building) = some handler) :
    (System.messageRecords { s with handler := handler }).Perm s.messageRecords := by
  obtain ⟨task, hget, rfl⟩ := Option.map_eq_some_iff.mp hend
  have hall : handlerRecords (msg, .delivering query building recorded) =
      (deliverWebhook query building).map attemptRecord := by
    rw [handlerRecords, List.take_of_length_le (List.getElem?_eq_none_iff.mp hdone)]
  have hgone := Slots.flatMap_eraseIdx handlerRecords hrunning
  rw [hall] at hgone
  simp only [System.messageRecords, List.flatMap_append, List.flatMap_cons, List.flatMap_nil,
    List.append_nil]
  refine List.Perm.trans ?_ (hgone.symm.append_right _)
  rw [← List.append_assoc, List.append_assoc (List.map _ _)]
  exact List.perm_append_comm

theorem senderRecords_finish {k : Nat} {webhook : AsyncWebhook} {env : DeliveryEnv}
    {sender : Slots (AsyncWebhook × SenderPhase) (DeliveryEnv × Delivery)}
    (hrunning : s.sender.running[k]? = some (webhook, .recorded env))
    (hend : (s.sender.finish k fun _ => (env, (newWebhookSender cfg).sendWithRetry env)) =
      some sender) :
    (System.senderRecords cfg { s with sender := sender }).Perm (s.senderRecords cfg) := by
  obtain ⟨task, hget, rfl⟩ := Option.map_eq_some_iff.mp hend
  obtain rfl := Option.some.inj (hget.symm.trans hrunning)
  have hgone := Slots.flatMap_eraseIdx (Metrics.senderRecords cfg) hrunning
  simp only [System.senderRecords, List.map_append, List.map_cons, List.map_nil]
  refine List.Perm.append_right _ (List.Perm.trans ?_ (hgone.symm.append_right _))
  rw [← List.append_assoc, List.append_assoc (Metrics.senderRecords _ _)]
  exact List.perm_append_comm

theorem Stepped.records (h : Stepped graphic cfg s a t) : Records graphic cfg s t := by
  cases h with
  | recordSend | scrape | scrapeWebhooks | scrapeSessions => exact .none (List.Perm.refl _) rfl
  | asyncDeliverWebhook msg =>
    refine .ofMessages ?_ rfl rfl
    simp only [System.messageRecords, Slots.offer]
    split <;> simp [handlerRecords]
  | @startDelivery k msg query building hrunning =>
    have hsame : (s.handler.running.set k (msg, .delivering query building 0)).flatMap
        handlerRecords = s.handler.running.flatMap handlerRecords :=
      Slots.flatMap_set_same hrunning rfl
    exact .ofMessages (.of_eq (congrArg (· ++ _) hsame)) rfl rfl
  | attempt hrunning hattempt =>
    refine .one (attemptRecord _) ?_ rfl
    have hone := Slots.flatMap_set_cons hrunning (perm_attempt hattempt)
    exact (hone.append_right _).append_right _
  | endDelivery hrunning hdone hend =>
    exact .ofMessages (messageRecords_finish hrunning hdone hend) rfl rfl
  | sendAsync webhook =>
    refine .ofSender rfl ?_ rfl
    simp only [System.senderRecords, Slots.offer]
    split <;> simp [Metrics.senderRecords]
  | @sendReturns k webhook env hrunning =>
    have hsame : (s.sender.running.set k (webhook, .returned env)).flatMap
        (Metrics.senderRecords cfg) = s.sender.running.flatMap (Metrics.senderRecords cfg) :=
      Slots.flatMap_set_same hrunning rfl
    exact .ofSender rfl (.of_eq (congrArg (· ++ _ ++ _) hsame)) rfl
  | @recordSent k webhook env hrunning =>
    have hone : ((s.sender.running.set k (webhook, .recorded env)).flatMap
        (Metrics.senderRecords cfg)).Perm (_ :: s.sender.running.flatMap _) :=
      Slots.flatMap_set_cons hrunning (List.Perm.refl _)
    exact .oneOfSender rfl ((hone.append_right _).append_right _) rfl
  | endSend hrunning hend => exact .ofSender rfl (senderRecords_finish hrunning hend) rfl
  | @recordDrop k webhook hdropped =>
    have hone : ((s.sender.dropped.set k (webhook, .dropRecorded)).flatMap
        (Metrics.senderRecords cfg)).Perm (_ :: s.sender.dropped.flatMap _) :=
      Slots.flatMap_set_cons hdropped (List.Perm.refl _)
    exact .oneOfSender rfl ((hone.append_left _).trans List.perm_middle) rfl

/-! ### The counters -/

theorem sendLabels_eq (r : SendRecord) :
    sendLabels graphic r.msgType r.mode r.failed = labelsText graphic r.labels := by
  apply String.toList_injective
  simp [sendLabels, SendRecord.labels, labelsText, labelText]

theorem webhookLabels_eq (r : WebhookRecord) :
    webhookLabels graphic r.mode r.event r.failed = labelsText graphic r.labels := by
  apply String.toList_injective
  simp [webhookLabels, WebhookRecord.labels, labelsText, labelText]

def CountsSends (graphic : Char → Bool) (messages : Counter) (actions : List Action) : Prop :=
  messages.Counts (((actions.filterMap Action.send?).map SendRecord.labels).map
    (labelsText graphic))

def CountsWebhooks (graphic : Char → Bool) (webhooks : Counter) (records : List WebhookRecord) :
    Prop :=
  webhooks.Counts ((records.map WebhookRecord.labels).map (labelsText graphic))

theorem Stepped.messages (h : Stepped graphic cfg s a t)
    (hcounts : CountsSends graphic s.messages actions) :
    CountsSends graphic t.messages (actions ++ [a]) := by
  unfold CountsSends at hcounts ⊢
  rw [List.filterMap_append, List.map_append, List.map_append]
  cases h with
  | recordSend msgType mode failed =>
    have htext := @sendLabels_eq graphic ⟨msgType, mode, failed⟩
    exact hcounts.inc (htext ▸ List.perm_append_singleton _ _)
  | _ =>
    refine hcounts.perm (List.Perm.of_eq ?_)
    exact List.append_nil _

theorem Stepped.webhooks (h : Stepped graphic cfg s a t)
    (hcounts : CountsWebhooks graphic s.webhooks (s.records cfg)) :
    CountsWebhooks graphic t.webhooks (t.records cfg) := by
  unfold CountsWebhooks at hcounts ⊢
  cases h.records with
  | none hrecords hwebhooks =>
    rw [hwebhooks]
    exact hcounts.perm ((hrecords.map _).map _)
  | one r hrecords hwebhooks =>
    rw [hwebhooks, recordWebhook, webhookLabels_eq]
    exact hcounts.inc ((hrecords.map _).map _)

theorem attemptRecord_about {r : WebhookRecord} {attempts : List Attempt}
    (hr : r ∈ attempts.map attemptRecord) : r.mode = "direct" ∧ r.event = eventMessageIncoming := by
  obtain ⟨attempt, -, rfl⟩ := List.mem_map.mp hr
  exact ⟨rfl, rfl⟩

theorem senderRecord_about {r : WebhookRecord} {tasks : List (AsyncWebhook × SenderPhase)}
    (hr : r ∈ tasks.flatMap (Metrics.senderRecords cfg)) :
    r.mode = "direct" ∧ ∃ webhook ∈ tasks.map Prod.fst, webhook.event = r.event := by
  obtain ⟨⟨webhook, phase⟩, htask, hrecord⟩ := List.mem_flatMap.mp hr
  have hwebhook : webhook ∈ tasks.map Prod.fst := List.mem_map_of_mem htask
  cases phase with
  | called | returned => cases hrecord
  | recorded | dropRecorded =>
    obtain rfl := List.mem_singleton.mp hrecord
    exact ⟨rfl, webhook, hwebhook, rfl⟩

theorem tasks_delivery : s.delivery.webhooks.tasks = s.sender.running.map Prod.fst ++
    s.sender.ended.map (fun entry => entry.1.1) ++ s.sender.dropped.map Prod.fst := by
  simp [System.delivery, Slots.tasks, Slots.map]

/-- A record is about an incoming message or about a webhook that was handed over. -/
theorem record_about {r : WebhookRecord} (hr : r ∈ s.records cfg) : r.mode = "direct" ∧
    (r.event = eventMessageIncoming ∨ ∃ webhook ∈ s.delivery.webhooks.tasks,
      webhook.event = r.event) := by
  rw [tasks_delivery]
  rcases List.mem_append.mp hr with hmessage | hsender
  · rcases List.mem_append.mp hmessage with hrunning | hended
    · obtain ⟨⟨msg, phase⟩, -, hrecord⟩ := List.mem_flatMap.mp hrunning
      cases phase with
      | called => cases hrecord
      | delivering => exact (attemptRecord_about hrecord).imp_right .inl
    · obtain ⟨entry, -, hrecord⟩ := List.mem_flatMap.mp hended
      exact (attemptRecord_about hrecord).imp_right .inl
  · rcases List.mem_append.mp hsender with hrest | hdropped
    · rcases List.mem_append.mp hrest with hrunning | hended
      · obtain ⟨hmode, webhook, hwebhook, hevent⟩ := senderRecord_about hrunning
        exact ⟨hmode, .inr ⟨webhook, by simp [hwebhook], hevent⟩⟩
      · obtain ⟨entry, hentry, rfl⟩ := List.mem_map.mp hended
        refine ⟨rfl, .inr ⟨entry.1.1, ?_, rfl⟩⟩
        exact List.mem_append_left _ (List.mem_append_right _ (List.mem_map_of_mem hentry))
    · obtain ⟨hmode, webhook, hwebhook, hevent⟩ := senderRecord_about hdropped
      exact ⟨hmode, .inr ⟨webhook, by simp [hwebhook], hevent⟩⟩

/-! ### What becomes of a webhook -/

def SenderPhase.pending : SenderPhase → Bool
  | .called | .returned _ => true
  | .recorded _ | .dropRecorded => false

/-- The webhooks of an event that nothing is recorded of yet. -/
def System.unrecorded (s : System) (event : String) : Nat :=
  (s.sender.running ++ s.sender.dropped).countP fun task =>
    task.1.event = event && task.2.pending

/-- The webhooks of an event that were handed over. -/
def handedOver (actions : List Action) (event : String) : Nat :=
  (actions.filterMap Action.webhook?).countP fun webhook => webhook.event = event

/-- Of each task one record, unless it is pending. -/
theorem count_tasks (tasks : List (AsyncWebhook × SenderPhase)) (event : String) :
    (tasks.flatMap (Metrics.senderRecords cfg)).count ⟨"direct", event, false⟩ +
        (tasks.flatMap (Metrics.senderRecords cfg)).count ⟨"direct", event, true⟩ +
        tasks.countP (fun task => task.1.event = event && task.2.pending) =
      tasks.countP fun task => task.1.event = event := by
  induction tasks with
  | nil => rfl
  | cons task tasks ih =>
    obtain ⟨webhook, phase⟩ := task
    rw [List.flatMap_cons, List.count_append, List.count_append, List.countP_cons,
      List.countP_cons]
    by_cases hevent : webhook.event = event
    · subst hevent
      cases phase with
      | called | returned | dropRecorded =>
        simp [Metrics.senderRecords, SenderPhase.pending] at ih ⊢
        omega
      | recorded env =>
        cases hfailed : sendFailed cfg env <;>
          simp [Metrics.senderRecords, SenderPhase.pending, hfailed] at ih ⊢ <;> omega
    · cases phase <;> simp [Metrics.senderRecords, hevent] at ih ⊢ <;> omega

theorem count_ended (ended : List ((AsyncWebhook × SenderPhase) × (DeliveryEnv × Delivery)))
    (event : String) :
    (ended.map fun entry => (⟨"direct", entry.1.1.event, entry.2.2.err.isSome⟩ :
          WebhookRecord)).count ⟨"direct", event, false⟩ +
        (ended.map fun entry => (⟨"direct", entry.1.1.event, entry.2.2.err.isSome⟩ :
          WebhookRecord)).count ⟨"direct", event, true⟩ =
      ended.countP fun entry => entry.1.1.event = event := by
  induction ended with
  | nil => rfl
  | cons entry ended ih =>
    simp only [List.map_cons, List.count_cons, List.countP_cons]
    by_cases hevent : entry.1.1.event = event
    · cases hfailed : entry.2.2.err.isSome <;> simp [hevent] at ih ⊢ <;> omega
    · simp [hevent] at ih ⊢
      omega

/-- Each webhook that was handed over is recorded once, as sent or as failed, or is not recorded
yet. -/
theorem senderRecords_count {guard : System → Action → Prop}
    (hrun : Run (step graphic cfg) guard .init actions s) (event : String) :
    (s.senderRecords cfg).count ⟨"direct", event, false⟩ +
        (s.senderRecords cfg).count ⟨"direct", event, true⟩ + s.unrecorded event =
      handedOver actions event := by
  obtain ⟨directActions, hdirect, -, hwebhooks⟩ := run_delivery hrun
  have hkept : SlotsKept cfg ([] ++ directActions) s.delivery := (SlotsKept.init cfg).run hdirect
  have htasks := hkept.webhooks
  rw [List.nil_append, hwebhooks] at htasks
  have hrunning := @count_tasks cfg s.sender.running event
  have hended := count_ended s.sender.ended event
  have hdropped := @count_tasks cfg s.sender.dropped event
  have hcount := htasks.countP_eq fun webhook => webhook.event = event
  rw [tasks_delivery] at hcount
  simp only [List.countP_append, List.countP_map, Function.comp_def] at hcount
  rw [System.senderRecords, List.count_append, List.count_append, List.count_append,
    List.count_append, System.unrecorded, List.countP_append, handedOver]
  omega

/-- One of the attempts was accepted. -/
def Accepted (env : DeliveryEnv) (d : Delivery) : Prop :=
  ∃ number ∈ d.attempts, env.send number = none

theorem attempt_accepted {env : DeliveryEnv} {attempt : Nat} {next : Err → Delivery}
    (hnext : ∀ err, (next err).err = none → Accepted env (next err))
    (hok : (env.attempt attempt next).err = none) : Accepted env (env.attempt attempt next) := by
  unfold DeliveryEnv.attempt at hok ⊢
  cases hsend : env.send attempt with
  | none => exact ⟨attempt, List.mem_cons_self, hsend⟩
  | some err =>
    rw [hsend] at hok
    obtain ⟨number, hmem, haccepted⟩ := hnext err hok
    exact ⟨number, List.mem_cons_of_mem _ hmem, haccepted⟩

theorem pause_accepted {env : DeliveryEnv} {attempt : Nat} {length : Int} {d : Delivery}
    (hd : d.err = none → Accepted env d) (hok : (env.pause attempt length d).err = none) :
    Accepted env (env.pause attempt length d) := by
  unfold DeliveryEnv.pause at hok ⊢
  cases hdone : env.done attempt with
  | none =>
    rw [hdone] at hok
    exact hd hok
  | some err =>
    rw [hdone] at hok
    cases hok

/-- A delivery that ends without an error was accepted, if an attempt was left. -/
theorem retryFrom_accepted {ws : WebhookSender} {env : DeliveryEnv} {left attempt : Nat}
    {err : Option Err} (hsome : left = 0 → err ≠ none)
    (hok : (ws.retryFrom env left attempt err).err = none) :
    Accepted env (ws.retryFrom env left attempt err) := by
  induction left generalizing attempt err with
  | zero => exact absurd hok (hsome rfl)
  | succ left ih =>
    have hrest (err : Err) : (ws.retryFrom env left (attempt + 1) (some err)).err = none →
        Accepted env (ws.retryFrom env left (attempt + 1) (some err)) :=
      ih fun _ => Option.some_ne_none err
    have hsent := @attempt_accepted env attempt _ hrest
    rw [WebhookSender.retryFrom] at hok ⊢
    by_cases hpause : attempt > 0
    · rw [if_pos hpause] at hok ⊢
      exact pause_accepted hsent hok
    · rw [if_neg hpause] at hok ⊢
      exact hsent hok

theorem sendWithRetry_accepted_iff (env : DeliveryEnv) :
    ((newWebhookSender cfg).sendWithRetry env).err = none ↔
      Accepted env ((newWebhookSender cfg).sendWithRetry env) := by
  constructor
  · intro hok
    rw [WebhookSender.sendWithRetry, newWebhookSender_attempts] at hok ⊢
    exact retryFrom_accepted (absurd · cfg.retries.succ_ne_zero) hok
  · rintro ⟨number, hmem, haccepted⟩
    obtain ⟨count, -, hattempts, -, hlast⟩ := sendWithRetry_stops cfg env
    rw [hattempts] at hmem
    exact hlast number (List.mem_range.mp hmem) haccepted

/-- A goroutine of the sender ends with the outcome of its delivery. -/
theorem ended_step (h : Stepped graphic cfg s a t)
    (hended : ∀ entry ∈ s.sender.ended,
      entry.2.2 = (newWebhookSender cfg).sendWithRetry entry.2.1) :
    ∀ entry ∈ t.sender.ended, entry.2.2 = (newWebhookSender cfg).sendWithRetry entry.2.1 := by
  cases h with
  | endSend hrunning hend =>
    intro entry hentry
    rcases Slots.mem_ended_finish hend hentry with hold | hnew
    · exact hended entry hold
    · rw [hnew]
  | sendAsync webhook =>
    intro entry hentry
    rw [Slots.ended_offer] at hentry
    exact hended entry hentry
  | _ => exact hended

theorem records_later (h : Stepped graphic cfg s a t) (r : WebhookRecord) :
    (s.records cfg).count r ≤ (t.records cfg).count r := by
  cases h.records with
  | none hrecords _ => exact (hrecords.count_eq r).ge
  | one other hrecords _ =>
    rw [hrecords.count_eq]
    exact List.count_le_count_cons

theorem records_mono {guard : System → Action → Prop}
    (hrun : Run (step graphic cfg) guard s actions t) (r : WebhookRecord) :
    (s.records cfg).count r ≤ (t.records cfg).count r := by
  induction hrun with
  | nil => exact Nat.le_refl _
  | cons _ hstep _ ih => exact (records_later (step_stepped hstep) r).trans ih

/-- In every run, the counters show the records. Each webhook that the sender was handed over is
recorded exactly once, as sent or as failed, or is not recorded yet; a goroutine that has ended has
recorded it as sent exactly if one of its attempts was accepted. No count ever gets smaller. -/
theorem webhooks_accounted {more : List Action}
    (hrun : Run (step graphic cfg) (fun _ _ => True) .init actions s)
    (hmore : Run (step graphic cfg) (fun _ _ => True) s more t) :
    CountsWebhooks graphic s.webhooks (s.records cfg) ∧
      (∀ event, (s.senderRecords cfg).count ⟨"direct", event, false⟩ +
          (s.senderRecords cfg).count ⟨"direct", event, true⟩ + s.unrecorded event =
        handedOver actions event) ∧
      (∀ entry ∈ s.sender.ended, entry.2.2.err.isSome = false ↔ Accepted entry.2.1 entry.2.2) ∧
      ∀ r, (s.records cfg).count r ≤ (t.records cfg).count r := by
  have hstart : CountsWebhooks graphic System.init.webhooks (System.init.records cfg) :=
    Tally.Counts.empty
  have hcounts : CountsWebhooks graphic s.webhooks (s.records cfg) :=
    hrun.invariant hstart fun _ _ _ _ hstep h => (step_stepped hstep).webhooks h
  have hended : ∀ entry ∈ s.sender.ended,
      entry.2.2 = (newWebhookSender cfg).sendWithRetry entry.2.1 :=
    hrun.invariant (by intro _ h; cases h) fun _ _ _ _ hstep h => ended_step (step_stepped hstep) h
  refine ⟨hcounts, senderRecords_count hrun, ?_, records_mono hmore⟩
  intro entry hentry
  rw [hended entry hentry, Option.isSome_eq_false_iff, Option.isNone_iff_eq_none]
  exact sendWithRetry_accepted_iff entry.2.1

section Sample

/-- Two webhooks, of which one is delivered and recorded. -/
def recordedSends : List Action :=
  [.sendAsync ⟨"https://example.com/a", "", "session.connected", ""⟩,
    .sendAsync ⟨"https://example.com/b", "", "session.connected", ""⟩,
    .sendReturns 0 acceptedSecondTime, .recordSent 0, .endSend 0]

def recordedState : System := final (step (fun _ => false) {}) .init recordedSends

theorem webhooks_accounted_two :
    CountsWebhooks (fun _ => false) recordedState.webhooks (recordedState.records {}) ∧
      (∀ event, (recordedState.senderRecords {}).count ⟨"direct", event, false⟩ +
          (recordedState.senderRecords {}).count ⟨"direct", event, true⟩ +
            recordedState.unrecorded event = handedOver recordedSends event) ∧
      (∀ entry ∈ recordedState.sender.ended,
        entry.2.2.err.isSome = false ↔ Accepted entry.2.1 entry.2.2) ∧
      ∀ r, (recordedState.records {}).count r ≤ (recordedState.records {}).count r :=
  webhooks_accounted (Run.to_final_free (by decide +kernel)) (.nil _)

end Sample

end WhatsappGateway.Metrics
