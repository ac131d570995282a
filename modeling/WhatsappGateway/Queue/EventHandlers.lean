import WhatsappGateway.Lib.Run
import WhatsappGateway.Queue.Constants
import WhatsappGateway.Queue.Dedup

/-!
The two queue handlers behind an incoming message. The first fans an event out
to the subscriptions of its account, as one webhook message for each; the second
delivers a webhook message. Both suppress redeliveries through the dedup cache of
the process, under differently composed keys. Any number of deliveries of any
events and webhook messages may be in the handlers at once.

The state remembers, for every key of the cache, on behalf of which event it was
last marked. The code has no such memory.
-/

namespace WhatsappGateway.Events

open Lib Queue

structure IncomingEventMessage where
  traceID : String
  phoneNumber : String
  jid : String
  event : List UInt8
  messageID : String
  timestamp : Int
deriving DecidableEq, Repr

structure WebhookSubscription where
  url : String
  hmacSecret : String
  events : String
deriving DecidableEq, Repr

structure WebhookDeliveryMessage where
  webhookURL : String
  hmacSecret : String
  payload : String
  messageID : String
deriving DecidableEq, Repr

/-- Unicode white space, as `strings.TrimSpace` strips it. -/
def isSpace (c : Char) : Bool :=
  let n := c.toNat
  (9 ≤ n && n ≤ 13) || n == 0x20 || n == 0x85 || n == 0xA0 || n == 0x1680 ||
    (0x2000 ≤ n && n ≤ 0x200A) || n == 0x2028 || n == 0x2029 || n == 0x202F || n == 0x205F ||
    n == 0x3000

def trimSpace (cs : List Char) : List Char :=
  ((cs.dropWhile isSpace).reverse.dropWhile isSpace).reverse

/-- `strings.Split` at commas: always at least one part. -/
def splitComma : List Char → List (List Char)
  | [] => [[]]
  | c :: cs =>
    if c = ',' then [] :: splitComma cs
    else
      match splitComma cs with
      | [] => [[c]]
      | part :: parts => (c :: part) :: parts

/-- A subscription without a filter matches every event. -/
def eventMatches (subEvents event : String) : Bool :=
  trimSpace subEvents.toList == [] ||
    (splitComma subEvents.toList).any fun e => trimSpace e == event.toList

def eventMessageIncoming : String := "message.incoming"

/-- The subscriptions an incoming message goes to. -/
def matching (subs : List WebhookSubscription) : List WebhookSubscription :=
  subs.filter fun sub => eventMatches sub.events eventMessageIncoming

/-- The dedup id of a webhook: one message to one destination. -/
def webhookDedupKey (messageID url : String) : String := messageID ++ "|" ++ url

/-- The webhook message of an event for a subscription. -/
def webhookMessage (buildWebhookPayload : IncomingEventMessage → String)
    (e : IncomingEventMessage) (sub : WebhookSubscription) : WebhookDeliveryMessage where
  webhookURL := sub.url
  hmacSecret := sub.hmacSecret
  payload := buildWebhookPayload e
  messageID := e.messageID

/-- The point which a delivery of an event has reached. -/
inductive EventPhase where
  /-- before `IsDuplicate` -/
  | delivered
  /-- before the subscriptions are read -/
  | fresh
  /-- before the publish to the first of these, or before `MarkProcessed` -/
  | fanningOut (rest : List WebhookSubscription)
  | done (err : Option String)
deriving DecidableEq, Repr

/-- The point which a delivery of a webhook message has reached. -/
inductive WebhookPhase where
  /-- before `IsDuplicate` -/
  | delivered
  /-- before the sender posts it -/
  | fresh
  /-- before `MarkProcessed` -/
  | posted
  | done (err : Option String)
deriving DecidableEq, Repr

structure EventDelivery where
  event : IncomingEventMessage
  phase : EventPhase

/-- A delivery of a webhook message, with the event it was published for. -/
structure WebhookDelivery where
  event : IncomingEventMessage
  message : WebhookDeliveryMessage
  phase : WebhookPhase

structure State where
  now : Int
  dedup : Option DedupCache
  subscriptions : String → List WebhookSubscription
  events : Nat → Option EventDelivery
  published : List (IncomingEventMessage × WebhookDeliveryMessage)
  webhooks : Nat → Option WebhookDelivery
  /-- on whose behalf each key of the cache was last marked -/
  author : String → Option IncomingEventMessage

inductive Action where
  | tick (d : Int)
  | subscribe (jid : String) (subs : List WebhookSubscription)
  /-- the broker delivers an event, for the first time or again -/
  | deliverEvent (i : Nat) (e : IncomingEventMessage)
  | checkEvent (i : Nat)
  | readSubscriptions (i : Nat) (err : Option String)
  | publishWebhook (i : Nat) (err : Option String)
  | markEvent (i : Nat)
  /-- the broker delivers the webhook message published as number `k` -/
  | deliverWebhook (j k : Nat)
  | checkWebhook (j : Nat)
  | postWebhook (j : Nat) (err : Option String)
  | markWebhook (j : Nat)
  /-- the outgoing handler marks a job -/
  | markJob (id : String)
deriving DecidableEq

def State.putEvent (s : State) (i : Nat) (d : EventDelivery) : State :=
  { s with events := Function.update s.events i (some d) }

def State.putWebhook (s : State) (j : Nat) (d : WebhookDelivery) : State :=
  { s with webhooks := Function.update s.webhooks j (some d) }

/-- A check on behalf of a message: the verdict and the state with the swept cache. -/
def State.check (s : State) (scope id : String) : Bool × State :=
  let (duplicate, dedup) := isDuplicate s.now s.dedup scope id
  (duplicate, { s with dedup := dedup })

/-- A mark on behalf of an event, or of no event. -/
def State.mark (s : State) (scope id : String) (author : Option IncomingEventMessage) : State :=
  { s with
    dedup := markProcessed s.now s.dedup scope id
    author := if id = "" then s.author else Function.update s.author (dedupKey scope id) author }

def step (buildWebhookPayload : IncomingEventMessage → String) (s : State) :
    Action → Option State
  | .tick d => if 0 ≤ d then some { s with now := s.now + d } else none
  | .subscribe jid subs =>
    some { s with subscriptions := Function.update s.subscriptions jid subs }
  | .deliverEvent i e =>
    match s.events i with
    | none => some (s.putEvent i ⟨e, .delivered⟩)
    | some _ => none
  | .checkEvent i =>
    match s.events i with
    | some ⟨e, .delivered⟩ =>
      let (duplicate, s) := s.check queueIncomingEvents e.messageID
      some (s.putEvent i ⟨e, if duplicate then .done none else .fresh⟩)
    | _ => none
  | .readSubscriptions i err =>
    match s.events i, err with
    | some ⟨e, .fresh⟩, none =>
      some (s.putEvent i ⟨e, .fanningOut (matching (s.subscriptions e.jid))⟩)
    | some ⟨e, .fresh⟩, some err =>
      some (s.putEvent i ⟨e, .done (some ("failed to get webhook subscriptions: " ++ err))⟩)
    | _, _ => none
  | .publishWebhook i err =>
    match s.events i, err with
    | some ⟨e, .fanningOut (sub :: rest)⟩, none =>
      some (({ s with
        published := s.published ++ [(e, webhookMessage buildWebhookPayload e sub)] } :
        State).putEvent i ⟨e, .fanningOut rest⟩)
    | some ⟨e, .fanningOut (_ :: _)⟩, some err =>
      some (s.putEvent i ⟨e, .done (some ("failed to publish webhook delivery: " ++ err))⟩)
    | _, _ => none
  | .markEvent i =>
    match s.events i with
    | some ⟨e, .fanningOut []⟩ =>
      some ((s.mark queueIncomingEvents e.messageID (some e)).putEvent i ⟨e, .done none⟩)
    | _ => none
  | .deliverWebhook j k =>
    match s.webhooks j, s.published[k]? with
    | none, some (e, msg) => some (s.putWebhook j ⟨e, msg, .delivered⟩)
    | _, _ => none
  | .checkWebhook j =>
    match s.webhooks j with
    | some ⟨e, msg, .delivered⟩ =>
      let (duplicate, s) :=
        s.check queueWebhookDelivery (webhookDedupKey msg.messageID msg.webhookURL)
      some (s.putWebhook j ⟨e, msg, if duplicate then .done none else .fresh⟩)
    | _ => none
  | .postWebhook j err =>
    match s.webhooks j, err with
    | some ⟨e, msg, .fresh⟩, none => some (s.putWebhook j ⟨e, msg, .posted⟩)
    | some ⟨e, msg, .fresh⟩, some err =>
      some (s.putWebhook j ⟨e, msg, .done (some ("failed to deliver webhook: " ++ err))⟩)
    | _, _ => none
  | .markWebhook j =>
    match s.webhooks j with
    | some ⟨e, msg, .posted⟩ =>
      some ((s.mark queueWebhookDelivery (webhookDedupKey msg.messageID msg.webhookURL)
        (some e)).putWebhook j ⟨e, msg, .done none⟩)
    | _ => none
  | .markJob id => some (s.mark queueOutgoingMessages id none)

/-- The workers of a configuration have just started. -/
def init (cfg : Config) (now : Int) : State where
  now := now
  dedup := provideDedup cfg now
  subscriptions := fun _ => []
  events := fun _ => none
  published := []
  webhooks := fun _ => none
  author := fun _ => none

end WhatsappGateway.Events
