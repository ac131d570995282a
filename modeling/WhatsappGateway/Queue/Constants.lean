import WhatsappGateway.Lib.GoTime

/-!
Names of the queue topology, and the routing of a delayed retry.
-/

namespace WhatsappGateway.Queue

open Lib

def queueIncomingEvents : String := "whatsapp.events.incoming"

def queueWebhookDelivery : String := "whatsapp.webhooks.delivery"

def queueOutgoingMessages : String := "whatsapp.messages.outgoing"

def dlqIncomingEvents : String := "whatsapp.dlq.events.incoming"

def dlqWebhookDelivery : String := "whatsapp.dlq.webhooks.delivery"

def dlqOutgoingMessages : String := "whatsapp.dlq.messages.outgoing"

/-- The delay tiers backed by a retry queue of their own. -/
def retryTiers : List Int := [1 * Duration.second, 5 * Duration.second, 25 * Duration.second]

/-- A tier is a whole number of seconds below a minute, printed as Go does. -/
def retryTierQueueName (queue : String) (tier : Int) : String :=
  queue ++ ".retry." ++ toString (tier / Duration.second) ++ "s"

def retryLongQueueName (queue : String) : String := queue ++ ".retry.long"

/-- The retry queue for a delay, and whether the delay must be carried as a
per-message expiration. -/
def retryRoute (queue : String) (delay : Int) : String × Bool :=
  match retryTiers.find? (delay ≤ ·) with
  | some tier => (retryTierQueueName queue tier, false)
  | none => (retryLongQueueName queue, true)

example : retryRoute queueOutgoingMessages 0 = ("whatsapp.messages.outgoing.retry.1s", false) := by
  decide +kernel

end WhatsappGateway.Queue
