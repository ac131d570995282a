import WhatsappGateway.Lib.Run
import WhatsappGateway.Lib.Slots
import WhatsappGateway.Whatsapp.DirectFanOut
import WhatsappGateway.Whatsapp.WebhookRetry

/-!
The webhooks that are delivered without the queue. The event handler delivers those of incoming
messages, the sender those of all other events with retries; each in goroutines of its own, and
with a semaphore of its own that a webhook is dropped at when it is full.

A goroutine is one task here, from the token it takes to the one it gives back. Metrics and log
lines are left out.
-/

namespace WhatsappGateway.Whatsapp

open Lib Events

/-- The capacity of either semaphore. -/
def maxConcurrentWebhooks : Nat := 50

/-- The message that `asyncDeliverWebhook` is called with. -/
structure MessageTask where
  traceID : String
  phoneNumber : String
  jid : String
  messageID : String
deriving DecidableEq, Repr

/-- What `SendAsync` is called with. -/
structure AsyncWebhook where
  url : String
  encryptedHmacSecret : String
  event : String
  payload : String
deriving DecidableEq, Repr

/-- `webhookSem` with the goroutines of the handler, and `sem` with those of the sender. A
goroutine of the sender is remembered with what it came upon. -/
structure DirectDelivery where
  messages : Slots MessageTask (List Attempt)
  webhooks : Slots AsyncWebhook (DeliveryEnv × Delivery)

namespace DirectDelivery

def init : DirectDelivery := ⟨.empty, .empty⟩

def asyncDeliverWebhook (s : DirectDelivery) (msg : MessageTask) : DirectDelivery :=
  { s with messages := s.messages.offer maxConcurrentWebhooks msg }

def sendAsync (s : DirectDelivery) (webhook : AsyncWebhook) : DirectDelivery :=
  { s with webhooks := s.webhooks.offer maxConcurrentWebhooks webhook }

end DirectDelivery

inductive DirectAction where
  | asyncDeliverWebhook (msg : MessageTask)
  | sendAsync (webhook : AsyncWebhook)
  /-- the `k`th goroutine of the handler returns, having come upon `query` -/
  | delivered (k : Nat) (query : Query) (building : Nat)
  /-- the `k`th goroutine of the sender returns, having come upon `env` -/
  | sent (k : Nat) (env : DeliveryEnv)

def directStep (cfg : RetryConfig) (s : DirectDelivery) : DirectAction → Option DirectDelivery
  | .asyncDeliverWebhook msg => some (s.asyncDeliverWebhook msg)
  | .sendAsync webhook => some (s.sendAsync webhook)
  | .delivered k query building =>
    (s.messages.finish k fun _ => deliverWebhook query building).map fun messages =>
      { s with messages := messages }
  | .sent k env =>
    (s.webhooks.finish k fun _ => (env, (newWebhookSender cfg).sendWithRetry env)).map
      fun webhooks => { s with webhooks := webhooks }

def DirectAction.message? : DirectAction → Option MessageTask
  | .asyncDeliverWebhook msg => some msg
  | _ => none

def DirectAction.webhook? : DirectAction → Option AsyncWebhook
  | .sendAsync webhook => some webhook
  | _ => none

/-- The state of both semaphores after `actions`. -/
structure SlotsKept (cfg : RetryConfig) (actions : List DirectAction) (s : DirectDelivery) :
    Prop where
  messageTokens : Slots.Balanced maxConcurrentWebhooks s.messages
  webhookTokens : Slots.Balanced maxConcurrentWebhooks s.webhooks
  messages : s.messages.tasks.Perm (actions.filterMap DirectAction.message?)
  webhooks : s.webhooks.tasks.Perm (actions.filterMap DirectAction.webhook?)
  limited : ∀ entry ∈ s.webhooks.ended, StopsInTime cfg entry.2.1 entry.2.2

variable {cfg : RetryConfig} {actions : List DirectAction} {s t : DirectDelivery}
  {a : DirectAction}

theorem SlotsKept.init (cfg : RetryConfig) : SlotsKept cfg [] .init where
  messageTokens := .empty _
  webhookTokens := .empty _
  messages := List.Perm.refl _
  webhooks := List.Perm.refl _
  limited := by
    intro _ h
    cases h

/-- A task more has come. -/
theorem perm_concat {α β : Type} {f : α → Option β} {xs : List α} {tasks tasks' : List β} {x : α}
    {task : β} (htask : f x = some task) (hperm : tasks.Perm (xs.filterMap f))
    (htasks : tasks'.Perm (task :: tasks)) : tasks'.Perm ((xs ++ [x]).filterMap f) := by
  rw [List.filterMap_append, List.filterMap_cons_some htask, List.filterMap_nil]
  exact htasks.trans ((hperm.cons task).trans (List.perm_append_singleton _ _).symm)

theorem filterMap_concat_none {α β : Type} {f : α → Option β} (xs : List α) {x : α}
    (hnone : f x = none) : (xs ++ [x]).filterMap f = xs.filterMap f := by
  rw [List.filterMap_append, List.filterMap_cons_none hnone, List.filterMap_nil, List.append_nil]

theorem SlotsKept.step (h : SlotsKept cfg actions s) (hstep : directStep cfg s a = some t) :
    SlotsKept cfg (actions ++ [a]) t := by
  cases a with
  | asyncDeliverWebhook msg =>
    cases hstep
    refine ⟨h.messageTokens.offer msg, h.webhookTokens, ?_, ?_, h.limited⟩
    · exact perm_concat rfl h.messages (Slots.tasks_offer _ _)
    · rw [filterMap_concat_none _ rfl]
      exact h.webhooks
  | sendAsync webhook =>
    cases hstep
    refine ⟨h.messageTokens, h.webhookTokens.offer webhook, ?_, ?_, ?_⟩
    · rw [filterMap_concat_none _ rfl]
      exact h.messages
    · exact perm_concat rfl h.webhooks (Slots.tasks_offer _ _)
    · intro entry hentry
      rw [DirectDelivery.sendAsync, Slots.ended_offer] at hentry
      exact h.limited entry hentry
  | delivered k query building =>
    obtain ⟨messages, hend, rfl⟩ := Option.map_eq_some_iff.mp hstep
    refine ⟨h.messageTokens.finish hend, h.webhookTokens, ?_, ?_, h.limited⟩
    · rw [filterMap_concat_none _ rfl]
      exact (Slots.tasks_finish hend).trans h.messages
    · rw [filterMap_concat_none _ rfl]
      exact h.webhooks
  | sent k env =>
    obtain ⟨webhooks, hend, rfl⟩ := Option.map_eq_some_iff.mp hstep
    refine ⟨h.messageTokens, h.webhookTokens.finish hend, ?_, ?_, ?_⟩
    · rw [filterMap_concat_none _ rfl]
      exact h.messages
    · rw [filterMap_concat_none _ rfl]
      exact (Slots.tasks_finish hend).trans h.webhooks
    · intro entry hentry
      rcases Slots.mem_ended_finish hend hentry with hearlier | hnew
      · exact h.limited entry hearlier
      · rw [hnew]
        exact sendWithRetry_stops cfg env

theorem SlotsKept.run {before : List DirectAction}
    (hrun : Run (directStep cfg) (fun _ _ => True) s actions t) (h : SlotsKept cfg before s) :
    SlotsKept cfg (before ++ actions) t := by
  induction hrun generalizing before with
  | nil =>
    rw [List.append_nil]
    exact h
  | cons _ hnext _ ih =>
    rw [List.append_cons]
    exact ih (h.step hnext)

/-- A webhook that is refused once and then accepted. -/
def acceptedSecondTime : DeliveryEnv where
  send number := if number = 0 then some (.new "webhook returned non-2xx status: 503") else none
  done _ := none

def twoWebhooks : List DirectAction :=
  [.sendAsync ⟨"https://example.com/a", "", "session.connected", ""⟩,
    .sendAsync ⟨"https://example.com/b", "", "session.connected", ""⟩, .sent 0 acceptedSecondTime]

end WhatsappGateway.Whatsapp
