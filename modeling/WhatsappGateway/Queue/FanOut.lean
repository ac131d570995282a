import WhatsappGateway.Queue.EventIsolation

/-!
The fan-out of one event, with what a publish hides: the broker may have taken a
delivery message whose publish reports an error. A retry then publishes it again,
so the messages of an event may repeat, and it is left to the second dedup layer
that its webhooks do not.
-/

namespace WhatsappGateway.FanOut

open Lib Queue Events

/-- A webhook that was delivered: the receiver has answered it. -/
structure Post where
  event : IncomingEventMessage
  url : String
  time : Int
deriving DecidableEq

structure State where
  sys : Events.State
  posts : List Post

inductive Action where
  | handlers (a : Events.Action)
  /-- the broker takes a delivery message, but its publish reports an error -/
  | publishLost (i : Nat) (err : String)

/-- The webhook that a step delivers. -/
def delivered (s : Events.State) : Events.Action → List Post
  | .postWebhook j none =>
    match s.webhooks j with
    | some ⟨e, msg, .fresh⟩ => [⟨e, msg.webhookURL, s.now⟩]
    | _ => []
  | _ => []

def step (buildWebhookPayload : IncomingEventMessage → String) (s : State) :
    Action → Option State
  | .handlers a =>
    match Events.step buildWebhookPayload s.sys a with
    | none => none
    | some sys => some { sys := sys, posts := s.posts ++ delivered s.sys a }
  | .publishLost i err =>
    match s.sys.events i with
    | some ⟨e, .fanningOut (sub :: _)⟩ =>
      some { s with
        sys := ({ s.sys with
          published := s.sys.published ++ [(e, webhookMessage buildWebhookPayload e sub)] } :
          Events.State).putEvent i
            ⟨e, .done (some ("failed to publish webhook delivery: " ++ err))⟩ }
    | _ => none

/-- The workers have just started, and the subscriptions are these. -/
def init (cfg : Config) (now : Int) (subscriptions : String → List WebhookSubscription) :
    State where
  sys := { Events.init cfg now with subscriptions := subscriptions }
  posts := []

/-- A delivery message of the event for the subscription has been published. -/
def Published (e : IncomingEventMessage) (sub : WebhookSubscription) (s : State) : Prop :=
  ∃ msg, (e, msg) ∈ s.sys.published ∧ msg.webhookURL = sub.url ∧
    msg.hmacSecret = sub.hmacSecret ∧ msg.messageID = e.messageID

/-- When the webhooks of the event to a URL were delivered. -/
def postsTo (e : IncomingEventMessage) (url : String) (s : State) : List Int :=
  (s.posts.filter fun post => post.event = e ∧ post.url = url).map Post.time

/-- A delivery between its check and its mark. -/
def between : WebhookPhase → Bool
  | .fresh => true
  | .posted => true
  | _ => false

/-- The point which delivery `j` has reached, if it is one of the event to the URL. -/
def phaseAt (e : IncomingEventMessage) (url : String) (s : State) (j : Nat) :
    Option WebhookPhase :=
  (s.sys.webhooks j).bind fun d =>
    if d.event = e ∧ d.message.webhookURL = url then some d.phase else none

/-- The subscriptions are fixed, no other event shares the message id, and the
deliveries of the event to a URL are processed one at a time, within the TTL of
the dedup cache after one of them has succeeded. -/
def OneAtATime (e : IncomingEventMessage) (s : State) : Action → Prop
  | .handlers (.subscribe _ _) => False
  | .handlers (.deliverEvent _ e') => e'.messageID = e.messageID → e' = e
  | .handlers (.checkWebhook j) => ∀ d, s.sys.webhooks j = some d → d.event = e →
      ∃ cache, s.sys.dedup = some cache ∧
        (∀ t ∈ postsTo e d.message.webhookURL s, s.sys.now < t + cache.ttl) ∧
        ∀ k phase, phaseAt e d.message.webhookURL s k = some phase → between phase = false
  | _ => True

/-! The changes a step is made of. -/

def State.moveEvent (s : State) (i : Nat) (d : EventDelivery) : State :=
  { s with sys := s.sys.putEvent i d }

def State.moveWebhook (s : State) (j : Nat) (d : WebhookDelivery) : State :=
  { s with sys := s.sys.putWebhook j d }

def State.checked (s : State) (scope id : String) : State :=
  { s with sys := (s.sys.check scope id).2 }

def State.marked (s : State) (scope id : String) (author : Option IncomingEventMessage) : State :=
  { s with sys := s.sys.mark scope id author }

def State.publishes (s : State) (e : IncomingEventMessage) (msg : WebhookDeliveryMessage) : State :=
  { s with sys := { s.sys with published := s.sys.published ++ [(e, msg)] } }

def State.posted (s : State) (e : IncomingEventMessage) (url : String) : State :=
  { s with posts := s.posts ++ [⟨e, url, s.sys.now⟩] }

/-- The id under which the second layer knows a delivery message. -/
def webhookID (msg : WebhookDeliveryMessage) : String :=
  webhookDedupKey msg.messageID msg.webhookURL

/-- Everything a step can do. -/
inductive Stepped (buildWebhookPayload : IncomingEventMessage → String) (s : State) :
    Action → State → Prop where
  | tick {d : Int} : 0 ≤ d → Stepped buildWebhookPayload s (.handlers (.tick d))
      { s with sys := { s.sys with now := s.sys.now + d } }
  | subscribe {jid subs t} : Stepped buildWebhookPayload s (.handlers (.subscribe jid subs)) t
  | deliverEvent {i e} : s.sys.events i = none →
      Stepped buildWebhookPayload s (.handlers (.deliverEvent i e))
        (s.moveEvent i ⟨e, .delivered⟩)
  | skipEvent {i e} : s.sys.events i = some ⟨e, .delivered⟩ →
      (isDuplicate s.sys.now s.sys.dedup queueIncomingEvents e.messageID).1 = true →
      Stepped buildWebhookPayload s (.handlers (.checkEvent i))
        ((s.checked queueIncomingEvents e.messageID).moveEvent i ⟨e, .done none⟩)
  | passEvent {i e} : s.sys.events i = some ⟨e, .delivered⟩ →
      Stepped buildWebhookPayload s (.handlers (.checkEvent i))
        ((s.checked queueIncomingEvents e.messageID).moveEvent i ⟨e, .fresh⟩)
  | readSubscriptions {i e} : s.sys.events i = some ⟨e, .fresh⟩ →
      Stepped buildWebhookPayload s (.handlers (.readSubscriptions i none))
        (s.moveEvent i ⟨e, .fanningOut (matching (s.sys.subscriptions e.jid))⟩)
  | readFailed {i e err err'} : s.sys.events i = some ⟨e, .fresh⟩ →
      Stepped buildWebhookPayload s (.handlers (.readSubscriptions i (some err)))
        (s.moveEvent i ⟨e, .done (some err')⟩)
  | publish {i e sub rest} : s.sys.events i = some ⟨e, .fanningOut (sub :: rest)⟩ →
      Stepped buildWebhookPayload s (.handlers (.publishWebhook i none))
        ((s.publishes e (webhookMessage buildWebhookPayload e sub)).moveEvent i
          ⟨e, .fanningOut rest⟩)
  | publishFailed {i e sub rest err err'} : s.sys.events i = some ⟨e, .fanningOut (sub :: rest)⟩ →
      Stepped buildWebhookPayload s (.handlers (.publishWebhook i (some err)))
        (s.moveEvent i ⟨e, .done (some err')⟩)
  | publishLost {i e sub rest err err'} : s.sys.events i = some ⟨e, .fanningOut (sub :: rest)⟩ →
      Stepped buildWebhookPayload s (.publishLost i err)
        ((s.publishes e (webhookMessage buildWebhookPayload e sub)).moveEvent i
          ⟨e, .done (some err')⟩)
  | markEvent {i e} : s.sys.events i = some ⟨e, .fanningOut []⟩ →
      Stepped buildWebhookPayload s (.handlers (.markEvent i))
        ((s.marked queueIncomingEvents e.messageID (some e)).moveEvent i ⟨e, .done none⟩)
  | deliverWebhook {j k e msg} : s.sys.webhooks j = none → (e, msg) ∈ s.sys.published →
      Stepped buildWebhookPayload s (.handlers (.deliverWebhook j k))
        (s.moveWebhook j ⟨e, msg, .delivered⟩)
  | skipWebhook {j e msg} : s.sys.webhooks j = some ⟨e, msg, .delivered⟩ →
      Stepped buildWebhookPayload s (.handlers (.checkWebhook j))
        ((s.checked queueWebhookDelivery (webhookID msg)).moveWebhook j ⟨e, msg, .done none⟩)
  | passWebhook {j e msg} : s.sys.webhooks j = some ⟨e, msg, .delivered⟩ →
      (isDuplicate s.sys.now s.sys.dedup queueWebhookDelivery (webhookID msg)).1 = false →
      Stepped buildWebhookPayload s (.handlers (.checkWebhook j))
        ((s.checked queueWebhookDelivery (webhookID msg)).moveWebhook j ⟨e, msg, .fresh⟩)
  | post {j e msg} : s.sys.webhooks j = some ⟨e, msg, .fresh⟩ →
      Stepped buildWebhookPayload s (.handlers (.postWebhook j none))
        ((s.posted e msg.webhookURL).moveWebhook j ⟨e, msg, .posted⟩)
  | postFailed {j e msg err err'} : s.sys.webhooks j = some ⟨e, msg, .fresh⟩ →
      Stepped buildWebhookPayload s (.handlers (.postWebhook j (some err)))
        (s.moveWebhook j ⟨e, msg, .done (some err')⟩)
  | markWebhook {j e msg} : s.sys.webhooks j = some ⟨e, msg, .posted⟩ →
      Stepped buildWebhookPayload s (.handlers (.markWebhook j))
        ((s.marked queueWebhookDelivery (webhookID msg) (some e)).moveWebhook j
          ⟨e, msg, .done none⟩)
  | markJob {id} : Stepped buildWebhookPayload s (.handlers (.markJob id))
      (s.marked queueOutgoingMessages id none)

/-- A step of the handlers, with the webhook it delivers. -/
theorem step_handlers {buildWebhookPayload : IncomingEventMessage → String} {s t : State}
    {a : Events.Action} (h : step buildWebhookPayload s (.handlers a) = some t) :
    ∃ sys, Events.step buildWebhookPayload s.sys a = some sys ∧
      t = ⟨sys, s.posts ++ delivered s.sys a⟩ := by
  simp only [step] at h
  split at h
  · cases h
  · next sys hsys =>
    cases h
    exact ⟨sys, hsys, rfl⟩

/-- A step of the handlers that delivers no webhook. -/
theorem step_silent {buildWebhookPayload : IncomingEventMessage → String} {s t : State}
    {a : Events.Action} (h : step buildWebhookPayload s (.handlers a) = some t)
    (hnone : delivered s.sys a = []) :
    ∃ sys, Events.step buildWebhookPayload s.sys a = some sys ∧ t = { s with sys := sys } := by
  obtain ⟨sys, hsys, rfl⟩ := step_handlers h
  exact ⟨sys, hsys, by rw [hnone, List.append_nil]⟩

theorem step_stepped {buildWebhookPayload : IncomingEventMessage → String} {s t : State}
    {a : Action} (h : step buildWebhookPayload s a = some t) :
    Stepped buildWebhookPayload s a t := by
  cases a with
  | publishLost i err =>
    simp only [step] at h
    split at h
    · next hi =>
      cases h
      exact .publishLost hi
    · cases h
  | handlers a =>
    cases a with
    | tick d =>
      obtain ⟨sys, hsys, rfl⟩ := step_silent h rfl
      obtain ⟨hd, heq⟩ := Option.ite_none_right_eq_some.mp hsys
      obtain rfl := Option.some.inj heq
      exact .tick hd
    | subscribe jid subs => exact .subscribe
    | deliverEvent i e =>
      obtain ⟨sys, hsys, rfl⟩ := step_silent h rfl
      simp only [Events.step] at hsys
      split at hsys
      · next hi =>
        cases hsys
        exact .deliverEvent hi
      · cases hsys
    | checkEvent i =>
      obtain ⟨sys, hsys, rfl⟩ := step_silent h rfl
      simp only [Events.step] at hsys
      split at hsys
      · next e hi =>
        cases hverdict : (isDuplicate s.sys.now s.sys.dedup queueIncomingEvents e.messageID).1 with
        | true =>
          simp only [State.check, hverdict, if_true, Option.some.injEq] at hsys
          subst hsys
          exact .skipEvent hi hverdict
        | false =>
          simp only [State.check, hverdict, Bool.false_eq_true, if_false, Option.some.injEq]
            at hsys
          subst hsys
          exact .passEvent hi
      · cases hsys
    | readSubscriptions i err =>
      obtain ⟨sys, hsys, rfl⟩ := step_silent h rfl
      simp only [Events.step] at hsys
      split at hsys
      · next hi =>
        cases hsys
        exact .readSubscriptions hi
      · next hi =>
        cases hsys
        exact .readFailed hi
      · cases hsys
    | publishWebhook i err =>
      obtain ⟨sys, hsys, rfl⟩ := step_silent h rfl
      simp only [Events.step] at hsys
      split at hsys
      · next hi =>
        cases hsys
        exact .publish hi
      · next hi =>
        cases hsys
        exact .publishFailed hi
      · cases hsys
    | markEvent i =>
      obtain ⟨sys, hsys, rfl⟩ := step_silent h rfl
      simp only [Events.step] at hsys
      split at hsys
      · next hi =>
        cases hsys
        exact .markEvent hi
      · cases hsys
    | deliverWebhook j k =>
      obtain ⟨sys, hsys, rfl⟩ := step_silent h rfl
      simp only [Events.step] at hsys
      split at hsys
      · next hj hentry =>
        cases hsys
        exact .deliverWebhook hj (List.mem_of_getElem? hentry)
      · cases hsys
    | checkWebhook j =>
      obtain ⟨sys, hsys, rfl⟩ := step_silent h rfl
      simp only [Events.step] at hsys
      split at hsys
      · next e msg hj =>
        cases hverdict : (isDuplicate s.sys.now s.sys.dedup queueWebhookDelivery
            (webhookDedupKey msg.messageID msg.webhookURL)).1 with
        | true =>
          simp only [State.check, hverdict, if_true, Option.some.injEq] at hsys
          subst hsys
          exact .skipWebhook hj
        | false =>
          simp only [State.check, hverdict, Bool.false_eq_true, if_false, Option.some.injEq]
            at hsys
          subst hsys
          exact .passWebhook hj hverdict
      · cases hsys
    | postWebhook j err =>
      obtain ⟨sys, hsys, rfl⟩ := step_handlers h
      simp only [Events.step] at hsys
      split at hsys
      · next hj =>
        cases hsys
        simp only [delivered, hj]
        exact .post hj
      · next hj =>
        cases hsys
        simp only [delivered, List.append_nil]
        exact .postFailed hj
      · cases hsys
    | markWebhook j =>
      obtain ⟨sys, hsys, rfl⟩ := step_silent h rfl
      simp only [Events.step] at hsys
      split at hsys
      · next hj =>
        cases hsys
        exact .markWebhook hj
      · cases hsys
    | markJob id =>
      obtain ⟨sys, hsys, rfl⟩ := step_silent h rfl
      cases hsys
      exact .markJob

end WhatsappGateway.FanOut
