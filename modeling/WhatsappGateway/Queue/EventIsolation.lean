import WhatsappGateway.Queue.EventHandlers

/-!
Whether the processing of one event can make a delivery of another look like a
duplicate. The keys of the two dedup layers name the message and, in the second
layer, the destination, but not the account that received the message. Two events
are isolated exactly when no pair of destinations gives them one key.
-/

namespace WhatsappGateway.Events

open Lib Queue

/-- The cache key of a webhook message of an event to a destination. -/
def webhookKey (e : IncomingEventMessage) (url : String) : String :=
  dedupKey queueWebhookDelivery (webhookDedupKey e.messageID url)

/-- In this step a delivery owed to `e` is skipped as a duplicate, because of an
entry last marked on behalf of `e'`. -/
def OwedSkip (e e' : IncomingEventMessage) (s : State) : Action → Prop
  | .checkEvent i =>
    s.events i = some ⟨e, .delivered⟩ ∧ matching (s.subscriptions e.jid) ≠ [] ∧
      (isDuplicate s.now s.dedup queueIncomingEvents e.messageID).1 = true ∧
      s.author (dedupKey queueIncomingEvents e.messageID) = some e'
  | .checkWebhook j => ∃ msg, s.webhooks j = some ⟨e, msg, .delivered⟩ ∧
      (isDuplicate s.now s.dedup queueWebhookDelivery
        (webhookDedupKey msg.messageID msg.webhookURL)).1 = true ∧
      s.author (dedupKey queueWebhookDelivery
        (webhookDedupKey msg.messageID msg.webhookURL)) = some e'
  | _ => False

/-- In no run does the processing of one of two events make a delivery owed to
the other look like a duplicate. -/
def Isolated (buildWebhookPayload : IncomingEventMessage → String) (cfg : Config)
    (e e' : IncomingEventMessage) : Prop :=
  ∀ start as s a, Run (step buildWebhookPayload) (fun _ _ => True) (init cfg start) as s →
    ¬ OwedSkip e e' s a ∧ ¬ OwedSkip e' e s a

/-- Everything a step can do to the cache, its authors and the webhook messages. -/
inductive Stepped (buildWebhookPayload : IncomingEventMessage → String) (s : State) :
    State → Prop where
  | ticked {d : Int} : 0 ≤ d → Stepped buildWebhookPayload s { s with now := s.now + d }
  | subscribed {subscriptions} : Stepped buildWebhookPayload s { s with subscriptions }
  | event {i d} : Stepped buildWebhookPayload s (s.putEvent i d)
  | checkedEvent {i d scope id} :
      Stepped buildWebhookPayload s ((s.check scope id).2.putEvent i d)
  | published {i d e sub} :
      Stepped buildWebhookPayload s (({ s with
        published := s.published ++ [(e, webhookMessage buildWebhookPayload e sub)] } :
        State).putEvent i d)
  | markedEvent {i d e} :
      Stepped buildWebhookPayload s
        ((s.mark queueIncomingEvents e.messageID (some e)).putEvent i d)
  | deliveredWebhook {j e msg phase} : (e, msg) ∈ s.published →
      Stepped buildWebhookPayload s (s.putWebhook j ⟨e, msg, phase⟩)
  | movedWebhook {j e msg phase phase'} : s.webhooks j = some ⟨e, msg, phase⟩ →
      Stepped buildWebhookPayload s (s.putWebhook j ⟨e, msg, phase'⟩)
  | checkedWebhook {j e msg phase phase' scope id} : s.webhooks j = some ⟨e, msg, phase⟩ →
      Stepped buildWebhookPayload s ((s.check scope id).2.putWebhook j ⟨e, msg, phase'⟩)
  | markedWebhook {j e msg phase phase'} : s.webhooks j = some ⟨e, msg, phase⟩ →
      Stepped buildWebhookPayload s ((s.mark queueWebhookDelivery
        (webhookDedupKey msg.messageID msg.webhookURL) (some e)).putWebhook j ⟨e, msg, phase'⟩)
  | markedJob {id} : Stepped buildWebhookPayload s (s.mark queueOutgoingMessages id none)

theorem step_stepped {buildWebhookPayload : IncomingEventMessage → String} {s t : State}
    {a : Action} (hstep : step buildWebhookPayload s a = some t) :
    Stepped buildWebhookPayload s t := by
  cases a with
  | tick d =>
    obtain ⟨hd, heq⟩ := Option.ite_none_right_eq_some.mp hstep
    obtain rfl := Option.some.inj heq
    exact .ticked hd
  | subscribe jid subs => cases hstep; exact .subscribed
  | markJob id => cases hstep; exact .markedJob
  | deliverEvent i e =>
    simp only [step] at hstep
    split at hstep <;> cases hstep
    exact .event
  | checkEvent i =>
    simp only [step] at hstep
    split at hstep <;> cases hstep
    exact .checkedEvent
  | readSubscriptions i err =>
    simp only [step] at hstep
    split at hstep <;> cases hstep <;> exact .event
  | publishWebhook i err =>
    simp only [step] at hstep
    split at hstep <;> cases hstep
    · exact .published
    · exact .event
  | markEvent i =>
    simp only [step] at hstep
    split at hstep <;> cases hstep
    exact .markedEvent
  | deliverWebhook j k =>
    simp only [step] at hstep
    split at hstep
    · next e msg _ hentry =>
      cases hstep
      exact .deliveredWebhook (List.mem_of_getElem? hentry)
    · cases hstep
  | checkWebhook j =>
    simp only [step] at hstep
    split at hstep
    · next hd => cases hstep; exact .checkedWebhook hd
    · cases hstep
  | postWebhook j err =>
    simp only [step] at hstep
    split at hstep
    · next hd => cases hstep; exact .movedWebhook hd
    · next hd => cases hstep; exact .movedWebhook hd
    · cases hstep
  | markWebhook j =>
    simp only [step] at hstep
    split at hstep
    · next hd => cases hstep; exact .markedWebhook hd
    · cases hstep

/-- Every entry is marked under a key of the event it was marked for, and every
webhook message carries the message id of its event. -/
structure Authored (s : State) : Prop where
  authors : ∀ key e, s.author key = some e →
    key = dedupKey queueIncomingEvents e.messageID ∨ ∃ url, key = webhookKey e url
  published : ∀ entry ∈ s.published, entry.2.messageID = entry.1.messageID
  webhooks : ∀ j d, s.webhooks j = some d → d.message.messageID = d.event.messageID

section Authored

variable {buildWebhookPayload : IncomingEventMessage → String} {s t : State} {a : Action}

theorem authored_mark {scope id : String} {author : Option IncomingEventMessage}
    (hkey : ∀ e ∈ author, dedupKey scope id = dedupKey queueIncomingEvents e.messageID ∨
      ∃ url, dedupKey scope id = webhookKey e url) (hs : Authored s) :
    Authored (s.mark scope id author) := by
  refine ⟨?_, hs.published, hs.webhooks⟩
  intro key e hauthor
  simp only [State.mark] at hauthor
  split at hauthor
  · exact hs.authors key e hauthor
  · by_cases hsame : key = dedupKey scope id
    · subst hsame
      rw [Function.update_self] at hauthor
      exact hkey e hauthor
    · rw [Function.update_of_ne hsame] at hauthor
      exact hs.authors key e hauthor

theorem authored_putWebhook {j : Nat} {d : WebhookDelivery}
    (hd : d.message.messageID = d.event.messageID) (hs : Authored s) :
    Authored (s.putWebhook j d) := by
  refine ⟨hs.authors, hs.published, ?_⟩
  intro k d' hd'
  by_cases hk : k = j
  · subst hk
    simp only [State.putWebhook, Function.update_self, Option.some.injEq] at hd'
    subst hd'
    exact hd
  · simp only [State.putWebhook, Function.update_of_ne hk] at hd'
    exact hs.webhooks k d' hd'

theorem authored_step (hstep : step buildWebhookPayload s a = some t) (hs : Authored s) :
    Authored t := by
  cases step_stepped hstep with
  | ticked | subscribed | event | checkedEvent => exact ⟨hs.authors, hs.published, hs.webhooks⟩
  | published =>
    refine ⟨hs.authors, ?_, hs.webhooks⟩
    intro entry hentry
    rcases List.mem_append.mp hentry with hold | hnew
    · exact hs.published entry hold
    · rw [List.mem_singleton.mp hnew]
      rfl
  | @markedEvent i d e =>
    have hmark : Authored (s.mark queueIncomingEvents e.messageID (some e)) := by
      refine authored_mark ?_ hs
      intro e' he'
      obtain rfl : e = e' := by simpa using he'
      exact .inl rfl
    exact ⟨hmark.authors, hmark.published, hmark.webhooks⟩
  | deliveredWebhook hentry => exact authored_putWebhook (hs.published _ hentry) hs
  | movedWebhook hd =>
    have hmsg := hs.webhooks _ _ hd
    exact authored_putWebhook hmsg hs
  | checkedWebhook hd =>
    have hmsg := hs.webhooks _ _ hd
    exact authored_putWebhook hmsg ⟨hs.authors, hs.published, hs.webhooks⟩
  | @markedWebhook j e msg phase phase' hd =>
    have hmsg : msg.messageID = e.messageID := hs.webhooks _ _ hd
    refine authored_putWebhook hmsg (authored_mark ?_ hs)
    intro e' he'
    obtain rfl : e = e' := by simpa using he'
    exact .inr ⟨msg.webhookURL, by rw [webhookKey, hmsg]⟩
  | markedJob => exact authored_mark (by simp) hs

theorem dead_step (hstep : step buildWebhookPayload s a = some t) (hs : Dead s.dedup s.now) :
    Dead t.dedup t.now := by
  cases step_stepped hstep with
  | ticked hd => exact hs.later (Int.le_add_of_nonneg_right hd)
  | checkedEvent | checkedWebhook => exact hs.after_check
  | markedEvent | markedWebhook | markedJob => exact hs.after_mark
  | subscribed | event | published | deliveredWebhook | movedWebhook => exact hs

theorem Dead.not_owedSkip {e e' : IncomingEventMessage} (hs : Dead s.dedup s.now) :
    ¬ OwedSkip e e' s a := by
  cases a with
  | checkEvent i =>
    rintro ⟨-, -, hdup, -⟩
    rw [hs.not_duplicate] at hdup
    cases hdup
  | checkWebhook j =>
    rintro ⟨msg, -, hdup, -⟩
    rw [hs.not_duplicate] at hdup
    cases hdup
  | _ => exact fun h => h

/-- Events without a common webhook key are not skipped for each other. -/
theorem Authored.not_owedSkip {e e' : IncomingEventMessage} (hs : Authored s)
    (hkeys : ∀ u u', webhookDedupKey e.messageID u ≠ webhookDedupKey e'.messageID u') :
    ¬ OwedSkip e e' s a := by
  cases a with
  | checkEvent i =>
    rintro ⟨-, -, -, hauthor⟩
    rcases hs.authors _ _ hauthor with hkey | ⟨url, hkey⟩
    · exact hkeys "" "" (by rw [dedupKey_inj hkey])
    · exact dedupKey_scope hkey
  | checkWebhook j =>
    rintro ⟨msg, hd, -, hauthor⟩
    have hmsg : msg.messageID = e.messageID := hs.webhooks j _ hd
    rw [hmsg] at hauthor
    rcases hs.authors _ _ hauthor with hkey | ⟨url, hkey⟩
    · exact dedupKey_scope hkey.symm
    · exact hkeys msg.webhookURL url (dedupKey_inj hkey)
  | _ => exact fun h => h

end Authored

theorem authored_init (cfg : Config) (start : Int) : Authored (init cfg start) := by
  refine ⟨?_, ?_, ?_⟩
  · intro key e hauthor
    cases hauthor
  · intro entry hentry
    cases hentry
  · intro j d hd
    cases hd

section Collision

variable (buildWebhookPayload : IncomingEventMessage → String) {cfg : Config}
  {e e' : IncomingEventMessage} {u u' : String}

/-- A subscription to every event. -/
def subscriptionTo (url : String) : WebhookSubscription := ⟨url, "", ""⟩

@[simp] theorem subscriptionTo_url (url : String) : (subscriptionTo url).url = url := rfl

@[simp] theorem matching_subscriptionTo (url : String) :
    matching [subscriptionTo url] = [subscriptionTo url] := rfl

/-- Event `i` is fanned out to one destination. -/
def fanOutTo (i : Nat) (e : IncomingEventMessage) (url : String) : List Action :=
  [.subscribe e.jid [subscriptionTo url], .deliverEvent i e, .checkEvent i,
    .readSubscriptions i none, .publishWebhook i none]

/-- Both events are fanned out, and the webhook of the second is delivered. -/
def collision (e e' : IncomingEventMessage) (u u' : String) : List Action :=
  fanOutTo 0 e u ++ fanOutTo 1 e' u' ++
    [.deliverWebhook 0 1, .checkWebhook 0, .postWebhook 0 none, .markWebhook 0,
      .deliverWebhook 1 0]

theorem webhookDedupKey_ne_empty (messageID url : String) :
    webhookDedupKey messageID url ≠ "" := by
  intro h
  have hlist := congrArg String.toList h
  simp [webhookDedupKey] at hlist

/-- With a live cache, a common webhook key makes one delivery hide the other. -/
theorem collision_skips (hactive : DedupActive cfg)
    (hkey : webhookDedupKey e.messageID u = webhookDedupKey e'.messageID u') :
    ∃ s, exec (step buildWebhookPayload) (init cfg 0) (collision e e' u u') = some s ∧
      OwedSkip e e' s (.checkWebhook 1) := by
  obtain ⟨henabled, hpos⟩ := hactive
  have hmarked : (isDuplicate 0 (markProcessed 0
      (some (newDedupCache 0 (Duration.seconds cfg.queueDedupTTLSeconds))) queueWebhookDelivery
      (webhookDedupKey e'.messageID u')) queueWebhookDelivery
      (webhookDedupKey e'.messageID u')).1 = true :=
    isDuplicate_marked (webhookDedupKey_ne_empty e'.messageID u') hpos
  simp [collision, fanOutTo, exec, step, init, provideDedup, henabled, State.putEvent,
    State.putWebhook, State.check, State.mark, isDuplicate_new hpos, webhookMessage, OwedSkip,
    hkey, hmarked, webhookDedupKey_ne_empty]

end Collision

/-- Two events are isolated exactly when the cache remembers nothing, or no two
destinations give them one webhook key. -/
theorem isolated_iff (buildWebhookPayload : IncomingEventMessage → String) (cfg : Config)
    (e e' : IncomingEventMessage) :
    Isolated buildWebhookPayload cfg e e' ↔
      ¬ DedupActive cfg ∨
        ∀ u u', webhookDedupKey e.messageID u ≠ webhookDedupKey e'.messageID u' := by
  constructor
  · intro hisolated
    by_contra hcollide
    simp only [not_or, not_not, not_forall] at hcollide
    obtain ⟨hactive, u, u', hkey⟩ := hcollide
    obtain ⟨s, hexec, hskip⟩ := collision_skips buildWebhookPayload hactive hkey
    exact (hisolated 0 _ s _ (Run.of_exec_free hexec)).1 hskip
  · intro hcondition start as s a hrun
    rcases hcondition with hdead | hkeys
    · have hs : Dead s.dedup s.now :=
        hrun.invariant (dead_provideDedup hdead) fun _ _ _ _ hstep hs => dead_step hstep hs
      exact ⟨Dead.not_owedSkip hs, Dead.not_owedSkip hs⟩
    · have hs : Authored s :=
        hrun.invariant (authored_init cfg start) fun _ _ _ _ hstep hs => authored_step hstep hs
      exact ⟨hs.not_owedSkip hkeys, hs.not_owedSkip fun u u' => (hkeys u' u).symm⟩

section GroupMessage

/-- A message of a group, as the account of a phone number receives it. -/
def groupMessage (phoneNumber : String) : IncomingEventMessage where
  traceID := "trace-" ++ phoneNumber
  phoneNumber := phoneNumber
  jid := phoneNumber ++ "@s.whatsapp.net"
  event := []
  messageID := "3EB0C767D097B7C7C030"
  timestamp := 1700000000

/-- The first account's event is fanned out and marked before the second's
arrives; the second account has a webhook of its own. -/
def groupRun : List Action :=
  fanOutTo 0 (groupMessage "628111") "https://a.example/hook" ++ [.markEvent 0,
    .subscribe "628222@s.whatsapp.net" [subscriptionTo "https://b.example/hook"],
    .deliverEvent 1 (groupMessage "628222")]

/-- The second account's event is skipped at once, though its webhook has another
URL. -/
theorem second_account_skipped :
    ¬ ∀ buildWebhookPayload cfg e e', e ≠ e' → Isolated buildWebhookPayload cfg e e' := by
  intro hisolated
  let buildWebhookPayload : IncomingEventMessage → String := fun _ => ""
  let s := final (step buildWebhookPayload) (init {} 0) groupRun
  have hrun : Run (step buildWebhookPayload) (fun _ _ => True) (init {} 0) groupRun s :=
    Run.to_final (by decide +kernel) (by decide +kernel)
  have hskip : OwedSkip (groupMessage "628222") (groupMessage "628111") s (.checkEvent 1) := by
    refine ⟨rfl, ?_, ?_, ?_⟩ <;> decide +kernel
  exact (hisolated buildWebhookPayload {} _ _ (by decide) 0 groupRun s _ hrun).1 hskip

end GroupMessage

end WhatsappGateway.Events
