import WhatsappGateway.Lib.Exclusion
import WhatsappGateway.Queue.FanOut

/-!
The fan-out of an event is complete, and its webhooks do not repeat. A delivery
of the event is only ever skipped after another has published everything; and a
webhook that was delivered is either not marked yet, while nothing else is in the
handler for it, or known to the cache for a TTL.
-/

namespace WhatsappGateway.FanOut

open Lib Lib.Exclusion Queue Events

section Complete

variable {buildWebhookPayload : IncomingEventMessage → String} {e : IncomingEventMessage}
  {subs : String → List WebhookSubscription} {s t : State}

/-- Every matching subscription has a delivery message. -/
def AllPublished (e : IncomingEventMessage) (subs : String → List WebhookSubscription)
    (s : State) : Prop :=
  ∀ sub ∈ matching (subs e.jid), Published e sub s

/-- What the point of a delivery says about the messages published. -/
def Reached (e : IncomingEventMessage) (subs : String → List WebhookSubscription) (s : State) :
    EventPhase → Prop
  | .fanningOut rest => ∀ sub ∈ matching (subs e.jid), sub ∈ rest ∨ Published e sub s
  | .done none => AllPublished e subs s
  | _ => True

/-- Deliveries of the event have published what they are past, and the cache knows
the event only when everything is published. -/
structure Complete (e : IncomingEventMessage) (subs : String → List WebhookSubscription)
    (s : State) : Prop where
  fixed : s.sys.subscriptions = subs
  unshared : ∀ i d, s.sys.events i = some d → d.event.messageID = e.messageID → d.event = e
  reached : ∀ i d, s.sys.events i = some d → d.event = e → Reached e subs s d.phase
  known : Knows s.sys.dedup (dedupKey queueIncomingEvents e.messageID) → AllPublished e subs s

theorem Published.mono {sub : WebhookSubscription} (h : Published e sub s)
    (hsub : s.sys.published ⊆ t.sys.published) : Published e sub t := by
  obtain ⟨msg, hmem, hmsg⟩ := h
  exact ⟨msg, hsub hmem, hmsg⟩

theorem Reached.mono {phase : EventPhase} (h : Reached e subs s phase)
    (hsub : s.sys.published ⊆ t.sys.published) : Reached e subs t phase := by
  cases phase with
  | fanningOut rest =>
    intro sub hmem
    rcases h sub hmem with hrest | hpublished
    · exact .inl hrest
    · exact .inr (hpublished.mono hsub)
  | done err =>
    cases err with
    | none => exact fun sub hmem => (h sub hmem).mono hsub
    | some err => trivial
  | _ => trivial

/-- A step that moves no event. -/
theorem Complete.of_same (hs : Complete e subs s)
    (hfixed : t.sys.subscriptions = s.sys.subscriptions) (hevents : t.sys.events = s.sys.events)
    (hsub : s.sys.published ⊆ t.sys.published)
    (hknown : Knows t.sys.dedup (dedupKey queueIncomingEvents e.messageID) →
      Knows s.sys.dedup (dedupKey queueIncomingEvents e.messageID) ∨ AllPublished e subs s) :
    Complete e subs t where
  fixed := hfixed.trans hs.fixed
  unshared := by rw [hevents]; exact hs.unshared
  reached := by
    rw [hevents]
    exact fun i d hd he => (hs.reached i d hd he).mono hsub
  known := by
    intro hknows
    rcases hknown hknows with hold | hall
    · exact fun sub hmem => (hs.known hold sub hmem).mono hsub
    · exact fun sub hmem => (hall sub hmem).mono hsub

theorem Complete.moveEvent (hs : Complete e subs s) {i : Nat} {e' : IncomingEventMessage}
    {phase : EventPhase} (hid : e'.messageID = e.messageID → e' = e)
    (hreached : e' = e → Reached e subs s phase) : Complete e subs (s.moveEvent i ⟨e', phase⟩) where
  fixed := hs.fixed
  unshared := by
    intro k d hd
    simp only [State.moveEvent, State.putEvent] at hd
    by_cases hk : k = i
    · rw [hk, Function.update_self] at hd
      rw [← Option.some.inj hd]
      exact hid
    · rw [Function.update_of_ne hk] at hd
      exact hs.unshared k d hd
  reached := by
    intro k d hd
    simp only [State.moveEvent, State.putEvent] at hd
    by_cases hk : k = i
    · rw [hk, Function.update_self] at hd
      rw [← Option.some.inj hd]
      exact hreached
    · rw [Function.update_of_ne hk] at hd
      exact hs.reached k d hd
  known := hs.known

theorem Complete.moveWebhook (hs : Complete e subs s) {j : Nat} {d : WebhookDelivery} :
    Complete e subs (s.moveWebhook j d) :=
  hs.of_same rfl rfl (List.Subset.refl _) .inl

theorem Complete.checked (hs : Complete e subs s) {scope id : String} :
    Complete e subs (s.checked scope id) :=
  hs.of_same rfl rfl (List.Subset.refl _) fun h => .inl h.of_check

theorem Complete.marked (hs : Complete e subs s) {scope id : String}
    {author : Option IncomingEventMessage}
    (hall : dedupKey queueIncomingEvents e.messageID = dedupKey scope id →
      AllPublished e subs s) : Complete e subs (s.marked scope id author) := by
  refine hs.of_same rfl rfl (List.Subset.refl _) fun h => ?_
  rcases h.of_mark with hkey | hold
  · exact .inr (hall hkey)
  · exact .inl hold

theorem Complete.publishes (hs : Complete e subs s) {e' : IncomingEventMessage}
    {msg : WebhookDeliveryMessage} : Complete e subs (s.publishes e' msg) :=
  hs.of_same rfl rfl (List.subset_append_left _ _) .inl

theorem Complete.posted (hs : Complete e subs s) {e' : IncomingEventMessage} {url : String} :
    Complete e subs (s.posted e' url) :=
  hs.of_same rfl rfl (List.Subset.refl _) .inl

/-- The message published for a subscription. -/
theorem published_publishes (e : IncomingEventMessage) (sub : WebhookSubscription) (s : State) :
    Published e sub (s.publishes e (webhookMessage buildWebhookPayload e sub)) :=
  ⟨_, List.mem_append_right _ List.mem_cons_self, rfl, rfl, rfl⟩

/-- The fan-out goes past one subscription, which has its message now. -/
theorem reached_publishes {sub : WebhookSubscription} {rest : List WebhookSubscription}
    (h : Reached e subs s (.fanningOut (sub :: rest))) :
    Reached e subs (s.publishes e (webhookMessage buildWebhookPayload e sub))
      (.fanningOut rest) := by
  intro other hmem
  rcases h other hmem with hrest | hpublished
  · rcases List.mem_cons.mp hrest with rfl | hrest
    · exact .inr (published_publishes e other s)
    · exact .inl hrest
  · exact .inr (hpublished.mono (List.subset_append_left _ _))

theorem complete_step {a : Action} (hstep : step buildWebhookPayload s a = some t)
    (hguard : OneAtATime e s a) (hs : Complete e subs s) : Complete e subs t := by
  cases step_stepped hstep with
  | tick => exact hs.of_same rfl rfl (List.Subset.refl _) .inl
  | subscribe => exact absurd hguard id
  | deliverEvent => exact hs.moveEvent hguard fun _ => trivial
  | skipEvent hi hduplicate =>
    refine hs.checked.moveEvent (hs.unshared _ _ hi) fun he => ?_
    -- the cache knows the event: someone has published everything
    obtain ⟨-, d, expiry, hcache, hentry, -⟩ := isDuplicate_iff.mp hduplicate
    rw [he] at hentry
    exact hs.known ⟨d, expiry, hcache, hentry⟩
  | passEvent hi => exact hs.checked.moveEvent (hs.unshared _ _ hi) fun _ => trivial
  | readSubscriptions hi =>
    refine hs.moveEvent (hs.unshared _ _ hi) fun he sub hmem => .inl ?_
    rwa [he, hs.fixed]
  | readFailed hi => exact hs.moveEvent (hs.unshared _ _ hi) fun _ => trivial
  | publish hi =>
    refine hs.publishes.moveEvent (hs.unshared _ _ hi) fun he => ?_
    subst he
    exact reached_publishes (hs.reached _ _ hi rfl)
  | publishFailed hi => exact hs.moveEvent (hs.unshared _ _ hi) fun _ => trivial
  | publishLost hi => exact hs.publishes.moveEvent (hs.unshared _ _ hi) fun _ => trivial
  | @markEvent i e' hi =>
    have hall : e' = e → AllPublished e subs s := by
      rintro rfl sub hmem
      rcases hs.reached _ _ hi rfl sub hmem with hrest | hpublished
      · cases hrest
      · exact hpublished
    refine (hs.marked ?_).moveEvent (hs.unshared _ _ hi) hall
    intro hkey
    exact hall (hs.unshared _ _ hi (dedupKey_inj hkey).symm)
  | deliverWebhook => exact hs.moveWebhook
  | skipWebhook => exact hs.checked.moveWebhook
  | passWebhook => exact hs.checked.moveWebhook
  | post => exact hs.posted.moveWebhook
  | postFailed => exact hs.moveWebhook
  | markWebhook =>
    exact Complete.moveWebhook (hs.marked fun hkey => absurd hkey dedupKey_scope)
  | markJob => exact hs.marked fun hkey => absurd hkey dedupKey_outgoing

theorem complete_init (cfg : Config) (now : Int) (e : IncomingEventMessage)
    (subs : String → List WebhookSubscription) : Complete e subs (init cfg now subs) where
  fixed := rfl
  unshared := by
    intro i d hd
    cases hd
  reached := by
    intro i d hd
    cases hd
  known := by
    rintro ⟨d, expiry, hcache, hentry⟩
    simp only [init, Events.init, provideDedup] at hcache
    split at hcache
    · cases hcache
      cases hentry
    · cases hcache

end Complete

section Once

variable {buildWebhookPayload : IncomingEventMessage → String} {e : IncomingEventMessage}
  {url : String} {ttl : Int} {s t : State}

/-- A webhook delivered at an instant is not marked yet, or nothing is in the
handler for it and the cache knows it for a TTL from then. -/
def Covered (e : IncomingEventMessage) (url : String) (ttl : Int) (s : State) (time : Int) : Prop :=
  (∃ j, phaseAt e url s j = some .posted) ∨
    ((∀ j phase, phaseAt e url s j = some phase → between phase = false) ∧
      (s.sys.now < time + ttl → Holds s.sys.dedup ttl (webhookKey e url) (time + ttl)))

/-- Messages carry the id of their event; at most one delivery of the event to the
URL is between its check and its mark, and at most one webhook was delivered. -/
structure Once (e : IncomingEventMessage) (url : String) (ttl : Int) (s : State) : Prop where
  published : ∀ entry ∈ s.sys.published, entry.2.messageID = entry.1.messageID
  webhooks : ∀ j d, s.sys.webhooks j = some d → d.message.messageID = d.event.messageID
  lasts : Lasts s.sys.dedup ttl
  clock : ∀ time ∈ postsTo e url s, time ≤ s.sys.now
  enabled : ∀ j phase, phaseAt e url s j = some phase → between phase = true →
    s.sys.dedup.isSome
  single : ∀ i j p q, phaseAt e url s i = some p → phaseAt e url s j = some q →
    between p = true → between q = true → i = j
  covered : postsTo e url s = [] ∨ ∃ time, postsTo e url s = [time] ∧ Covered e url ttl s time

/-- A delivery that has just been put somewhere. -/
theorem phaseAt_moveWebhook (e : IncomingEventMessage) (url : String) (s : State) (j k : Nat)
    (d : WebhookDelivery) : phaseAt e url (s.moveWebhook j d) k =
      if k = j then (if d.event = e ∧ d.message.webhookURL = url then some d.phase else none)
      else phaseAt e url s k := by
  by_cases hk : k = j
  · subst hk
    simp [phaseAt, State.moveWebhook, State.putWebhook]
  · simp [phaseAt, State.moveWebhook, State.putWebhook, hk]

theorem phaseAt_moveWebhook_of_ne {j : Nat} (d : WebhookDelivery) (k : Nat) (h : k ≠ j) :
    phaseAt e url (s.moveWebhook j d) k = phaseAt e url s k := by
  rw [phaseAt_moveWebhook, if_neg h]

/-- What holds of every delivery message still does after one has moved. -/
theorem webhooks_moveWebhook {P : WebhookDelivery → Prop} {j : Nat} {d : WebhookDelivery}
    (hall : ∀ k d', s.sys.webhooks k = some d' → P d') (hd : P d) :
    ∀ k d', (s.moveWebhook j d).sys.webhooks k = some d' → P d' := by
  intro k d' hd'
  simp only [State.moveWebhook, State.putWebhook] at hd'
  by_cases hk : k = j
  · rw [hk, Function.update_self] at hd'
    rwa [← Option.some.inj hd']
  · rw [Function.update_of_ne hk] at hd'
    exact hall k d' hd'

/-- The id of a delivery message of the event to the URL. -/
theorem dedupKey_webhookID {msg : WebhookDeliveryMessage} {e' : IncomingEventMessage}
    (hid : msg.messageID = e'.messageID) (he : e' = e) (hurl : msg.webhookURL = url) :
    dedupKey queueWebhookDelivery (webhookID msg) = webhookKey e url := by
  rw [webhookID, hid, he, hurl, webhookKey]

theorem Once.exclusive (hs : Once e url ttl s) : Exclusive between (phaseAt e url s) :=
  hs.single

/-- A step that brings nothing of the event to the URL in between, takes nothing
out before its mark, delivers nothing and keeps the entry of the webhook. -/
theorem Once.of_weaker (hs : Once e url ttl s)
    (hpublished : ∀ entry ∈ t.sys.published, entry.2.messageID = entry.1.messageID)
    (hwebhooks : ∀ j d, t.sys.webhooks j = some d → d.message.messageID = d.event.messageID)
    (hlasts : Lasts t.sys.dedup ttl) (hsome : t.sys.dedup.isSome = s.sys.dedup.isSome)
    (hclock : s.sys.now ≤ t.sys.now) (hposts : t.posts = s.posts)
    (henters : NobodyEnters between (phaseAt e url s) (phaseAt e url t))
    (hunmarked : ∀ j, phaseAt e url s j = some .posted → phaseAt e url t j = some .posted)
    (hholds : ∀ time, t.sys.now < time → time ≤ s.sys.now + ttl →
      Holds s.sys.dedup ttl (webhookKey e url) time →
        Holds t.sys.dedup ttl (webhookKey e url) time) : Once e url ttl t := by
  have hpostsTo : postsTo e url t = postsTo e url s := by rw [postsTo, postsTo, hposts]
  refine ⟨hpublished, hwebhooks, hlasts, ?_, ?_, hs.exclusive.of_nobodyEnters henters, ?_⟩
  · intro time htime
    rw [hpostsTo] at htime
    exact Int.le_trans (hs.clock time htime) hclock
  · rw [hsome]
    exact WhileInside.of_nobodyEnters hs.enabled henters
  · rw [hpostsTo]
    rcases hs.covered with hnone | ⟨time, hsent, ⟨j, hj⟩ | ⟨hnobody, hentry⟩⟩
    · exact .inl hnone
    · exact .inr ⟨time, hsent, .inl ⟨j, hunmarked j hj⟩⟩
    · refine .inr ⟨time, hsent, .inr ⟨Vacant.of_nobodyEnters hnobody henters, ?_⟩⟩
      intro hnow
      have htime : time ≤ s.sys.now := hs.clock time (by rw [hsent]; exact List.mem_cons_self)
      exact hholds _ hnow (by omega) (hentry (by omega))

/-- A step that moves no delivery message. -/
theorem Once.of_same (hs : Once e url ttl s)
    (hpublished : ∀ entry ∈ t.sys.published, entry.2.messageID = entry.1.messageID)
    (hwebhooks : t.sys.webhooks = s.sys.webhooks) (hlasts : Lasts t.sys.dedup ttl)
    (hsome : t.sys.dedup.isSome = s.sys.dedup.isSome) (hclock : s.sys.now ≤ t.sys.now)
    (hposts : t.posts = s.posts)
    (hholds : ∀ time, t.sys.now < time → time ≤ s.sys.now + ttl →
      Holds s.sys.dedup ttl (webhookKey e url) time →
        Holds t.sys.dedup ttl (webhookKey e url) time) : Once e url ttl t := by
  have hphase : phaseAt e url t = phaseAt e url s := by
    funext j
    rw [phaseAt, phaseAt, hwebhooks]
  refine hs.of_weaker hpublished ?_ hlasts hsome hclock hposts ?_ ?_ hholds
  · rw [hwebhooks]
    exact hs.webhooks
  · rw [hphase]
    exact .refl _ _
  · rw [hphase]
    exact fun _ hj => hj

theorem Once.moveEvent (hs : Once e url ttl s) {i : Nat} {d : EventDelivery} :
    Once e url ttl (s.moveEvent i d) :=
  hs.of_same hs.published rfl hs.lasts rfl (Int.le_refl _) rfl fun _ _ _ h => h

theorem Once.checked (hs : Once e url ttl s) {scope id : String} :
    Once e url ttl (s.checked scope id) :=
  hs.of_same hs.published rfl hs.lasts.after_check isDuplicate_isSome (Int.le_refl _) rfl
    fun _ hnow _ h => h.after_check (Int.le_of_lt hnow)

theorem Once.marked (hs : Once e url ttl s) {scope id : String}
    {author : Option IncomingEventMessage} : Once e url ttl (s.marked scope id author) :=
  hs.of_same hs.published rfl hs.lasts.after_mark markProcessed_isSome (Int.le_refl _) rfl
    fun _ hnow htime h => h.after_mark (Int.le_of_lt hnow) htime

theorem Once.publishes (hs : Once e url ttl s) {e' : IncomingEventMessage}
    {sub : WebhookSubscription} :
    Once e url ttl (s.publishes e' (webhookMessage buildWebhookPayload e' sub)) := by
  refine hs.of_same ?_ rfl hs.lasts rfl (Int.le_refl _) rfl fun _ _ _ h => h
  intro entry hmem
  rcases List.mem_append.mp hmem with hold | hnew
  · exact hs.published entry hold
  · rw [List.mem_singleton.mp hnew]
    rfl

/-- A delivery that moves without coming newly in between, and not from before its
mark. -/
theorem Once.moveWebhook (hs : Once e url ttl s) {j : Nat} {e' : IncomingEventMessage}
    {msg : WebhookDeliveryMessage} {phase : WebhookPhase}
    (hid : msg.messageID = e'.messageID)
    (hbetween : between phase = true → e' = e → msg.webhookURL = url →
      ∃ p, phaseAt e url s j = some p ∧ between p = true)
    (hposted : phaseAt e url s j ≠ some .posted) :
    Once e url ttl (s.moveWebhook j ⟨e', msg, phase⟩) := by
  refine hs.of_weaker hs.published (webhooks_moveWebhook hs.webhooks hid) hs.lasts rfl
    (Int.le_refl _) rfl (.of_moved (phaseAt_moveWebhook_of_ne _) ?_) ?_ fun _ _ _ h => h
  · intro q hq hqbetween
    rw [phaseAt_moveWebhook, if_pos rfl] at hq
    split at hq
    · next habout =>
      obtain rfl : phase = q := Option.some.inj hq
      exact hbetween hqbetween habout.1 habout.2
    · cases hq
  · intro k hk
    rw [phaseAt_moveWebhook_of_ne]
    · exact hk
    · rintro rfl
      exact hposted hk

theorem phaseAt_of {j : Nat} {e' : IncomingEventMessage} {msg : WebhookDeliveryMessage}
    {phase : WebhookPhase} (hj : s.sys.webhooks j = some ⟨e', msg, phase⟩) :
    phaseAt e url s j = if e' = e ∧ msg.webhookURL = url then some phase else none := by
  simp [phaseAt, hj]

theorem postsTo_other {e' : IncomingEventMessage} {url' : String}
    (hother : ¬ (e' = e ∧ url' = url)) : postsTo e url (s.posted e' url') = postsTo e url s := by
  simp only [postsTo, State.posted, List.filter_append]
  simp [hother]

theorem postsTo_own (e : IncomingEventMessage) (url : String) (s : State) :
    postsTo e url (s.posted e url) = postsTo e url s ++ [s.sys.now] := by
  simp only [postsTo, State.posted, List.filter_append]
  simp

/-- A webhook of another event, or to another URL. -/
theorem Once.posted_other (hs : Once e url ttl s) {e' : IncomingEventMessage} {url' : String}
    (hother : ¬ (e' = e ∧ url' = url)) : Once e url ttl (s.posted e' url') where
  published := hs.published
  webhooks := hs.webhooks
  lasts := hs.lasts
  clock := by
    rw [postsTo_other hother]
    exact hs.clock
  enabled := hs.enabled
  single := hs.single
  covered := by
    rw [postsTo_other hother]
    exact hs.covered

/-- Nothing was delivered to the URL yet, if the cache does not know the webhook
while it may. -/
theorem Once.unposted (hs : Once e url ttl s) {msg : WebhookDeliveryMessage}
    (hkey : dedupKey queueWebhookDelivery (webhookID msg) = webhookKey e url)
    (hverdict : (isDuplicate s.sys.now s.sys.dedup queueWebhookDelivery (webhookID msg)).1 = false)
    (hwithin : ∀ time ∈ postsTo e url s, s.sys.now < time + ttl)
    (hnobody : ∀ k phase, phaseAt e url s k = some phase → between phase = false) :
    postsTo e url s = [] := by
  rcases hs.covered with hnone | ⟨time, hsent, ⟨k, hk⟩ | ⟨-, hentry⟩⟩
  · exact hnone
  · cases hnobody k _ hk
  · have hnow : s.sys.now < time + ttl := by
      apply hwithin
      rw [hsent]
      exact List.mem_cons_self
    have hholds := hentry hnow
    rw [← hkey] at hholds
    rw [hholds.isDuplicate (webhookDedupKey_ne_empty _ _) hnow] at hverdict
    cases hverdict

/-- The check of a delivery which the cache does not know. -/
theorem once_pass {j : Nat} {msg : WebhookDeliveryMessage} (hs : Once e url ttl s)
    (hj : s.sys.webhooks j = some ⟨e, msg, .delivered⟩) (hurl : msg.webhookURL = url)
    (hverdict : (isDuplicate s.sys.now s.sys.dedup queueWebhookDelivery (webhookID msg)).1 = false)
    (hsome : s.sys.dedup.isSome)
    (hwithin : ∀ time ∈ postsTo e url s, s.sys.now < time + ttl)
    (hnobody : ∀ k phase, phaseAt e url s k = some phase → between phase = false) :
    Once e url ttl ((s.checked queueWebhookDelivery (webhookID msg)).moveWebhook j
      ⟨e, msg, .fresh⟩) := by
  have hid : msg.messageID = e.messageID := hs.webhooks j _ hj
  have hnone := hs.unposted (dedupKey_webhookID hid rfl hurl) hverdict hwithin hnobody
  have hvacant : Vacant between
      (phaseAt e url (s.checked queueWebhookDelivery (webhookID msg))) := hnobody
  refine ⟨hs.published, webhooks_moveWebhook hs.webhooks hid, hs.lasts.after_check, hs.clock,
    ?_, hvacant.enter (phaseAt_moveWebhook_of_ne _), .inl hnone⟩
  intro k q _ _
  exact isDuplicate_isSome.trans hsome

/-- The first webhook to the URL is noted, by a delivery that is past it. -/
theorem Once.posted_own (hs : Once e url ttl s) (hnone : postsTo e url s = []) {j : Nat}
    (hj : phaseAt e url s j = some .posted) : Once e url ttl (s.posted e url) where
  published := hs.published
  webhooks := hs.webhooks
  lasts := hs.lasts
  clock := by
    intro time htime
    rw [postsTo_own, hnone, List.nil_append, List.mem_singleton] at htime
    exact Int.le_of_eq htime
  enabled := hs.enabled
  single := hs.single
  covered := by
    rw [postsTo_own, hnone, List.nil_append]
    exact .inr ⟨_, rfl, .inl ⟨j, hj⟩⟩

/-- The delivery of the webhook. -/
theorem once_post {j : Nat} {msg : WebhookDeliveryMessage} (hs : Once e url ttl s)
    (hj : s.sys.webhooks j = some ⟨e, msg, .fresh⟩) (hurl : msg.webhookURL = url) :
    Once e url ttl ((s.posted e url).moveWebhook j ⟨e, msg, .posted⟩) := by
  have hid : msg.messageID = e.messageID := hs.webhooks j _ hj
  have hfresh : phaseAt e url s j = some .fresh := by rw [phaseAt_of hj, if_pos ⟨rfl, hurl⟩]
  have hnone : postsTo e url s = [] := by
    rcases hs.covered with hnone | ⟨time, -, ⟨k, hk⟩ | ⟨hnobody, -⟩⟩
    · exact hnone
    · obtain rfl := hs.single k j .posted .fresh hk hfresh rfl rfl
      rw [hfresh] at hk
      cases hk
    · cases hnobody j _ hfresh
  have hmoved : Once e url ttl (s.moveWebhook j ⟨e, msg, .posted⟩) :=
    hs.moveWebhook hid (fun _ _ _ => ⟨.fresh, hfresh, rfl⟩) (by rw [hfresh]; simp)
  have hposted : phaseAt e url (s.moveWebhook j ⟨e, msg, .posted⟩) j = some .posted := by
    rw [phaseAt_moveWebhook, if_pos rfl, if_pos ⟨rfl, hurl⟩]
  exact hmoved.posted_own hnone hposted

/-- The mark: from here on the cache knows the webhook. -/
theorem once_mark {j : Nat} {msg : WebhookDeliveryMessage} (hs : Once e url ttl s)
    (hj : s.sys.webhooks j = some ⟨e, msg, .posted⟩) (hurl : msg.webhookURL = url) :
    Once e url ttl ((s.marked queueWebhookDelivery (webhookID msg) (some e)).moveWebhook j
      ⟨e, msg, .done none⟩) := by
  have hid : msg.messageID = e.messageID := hs.webhooks j _ hj
  have hposted : phaseAt e url s j = some .posted := by rw [phaseAt_of hj, if_pos ⟨rfl, hurl⟩]
  obtain ⟨d, hd⟩ := Option.isSome_iff_exists.mp (hs.enabled j _ hposted rfl)
  have hvacant : Vacant between (phaseAt e url ((s.marked queueWebhookDelivery (webhookID msg)
      (some e)).moveWebhook j ⟨e, msg, .done none⟩)) := by
    refine hs.exclusive.leave hposted rfl (phaseAt_moveWebhook_of_ne _) ?_
    intro q hq
    rw [phaseAt_moveWebhook, if_pos rfl, if_pos ⟨rfl, hurl⟩] at hq
    obtain rfl := Option.some.inj hq
    rfl
  have hentry : ∀ time ≤ s.sys.now, Holds (markProcessed s.sys.now s.sys.dedup
      queueWebhookDelivery (webhookID msg)) ttl (webhookKey e url) (time + ttl) := by
    intro time htime
    have httl : d.ttl = ttl := hs.lasts d hd
    rw [hd, ← httl, ← dedupKey_webhookID hid rfl hurl]
    exact holds_mark (webhookDedupKey_ne_empty _ _) (by omega)
  refine ⟨hs.published, webhooks_moveWebhook hs.webhooks hid, hs.lasts.after_mark, hs.clock,
    hvacant.whileInside, hvacant.exclusive, ?_⟩
  rcases hs.covered with hnone | ⟨time, hsent, -⟩
  · exact .inl hnone
  · have htime : time ≤ s.sys.now := by
      apply hs.clock
      rw [hsent]
      exact List.mem_cons_self
    exact .inr ⟨time, hsent, .inr ⟨hvacant, fun _ => hentry time htime⟩⟩

theorem once_step {a : Action} (hstep : step buildWebhookPayload s a = some t)
    (hguard : OneAtATime e s a) (hs : Once e url ttl s) : Once e url ttl t := by
  cases step_stepped hstep with
  | tick hd =>
    exact hs.of_same hs.published rfl hs.lasts rfl (Int.le_add_of_nonneg_right hd) rfl
      fun _ _ _ h => h
  | subscribe => exact absurd hguard id
  | deliverEvent => exact hs.moveEvent
  | skipEvent => exact hs.checked.moveEvent
  | passEvent => exact hs.checked.moveEvent
  | readSubscriptions => exact hs.moveEvent
  | readFailed => exact hs.moveEvent
  | publish => exact hs.publishes.moveEvent
  | publishFailed => exact hs.moveEvent
  | publishLost => exact hs.publishes.moveEvent
  | markEvent => exact hs.marked.moveEvent
  | deliverWebhook hj hmem =>
    refine hs.moveWebhook (hs.published _ hmem) (fun h => by cases h) ?_
    simp [phaseAt, hj]
  | skipWebhook hj =>
    refine hs.checked.moveWebhook (hs.webhooks _ _ hj) (fun h => by cases h) ?_
    rw [phaseAt_of (show (s.checked _ _).sys.webhooks _ = _ from hj)]
    split <;> simp
  | @passWebhook j e' msg hj hverdict =>
    by_cases habout : e' = e ∧ msg.webhookURL = url
    · obtain ⟨rfl, rfl⟩ := habout
      obtain ⟨cache, hcache, hwithin, hnobody⟩ := hguard _ hj rfl
      have httl : cache.ttl = ttl := hs.lasts cache hcache
      rw [httl] at hwithin
      exact once_pass hs hj rfl hverdict (by rw [hcache]; rfl) hwithin hnobody
    · refine hs.checked.moveWebhook (hs.webhooks _ _ hj) ?_ ?_
      · exact fun _ he hurl => absurd ⟨he, hurl⟩ habout
      · rw [phaseAt_of (show (s.checked _ _).sys.webhooks _ = _ from hj), if_neg habout]
        simp
  | @post j e' msg hj =>
    by_cases habout : e' = e ∧ msg.webhookURL = url
    · obtain ⟨rfl, rfl⟩ := habout
      exact once_post hs hj rfl
    · refine (hs.posted_other habout).moveWebhook (hs.webhooks _ _ hj) ?_ ?_
      · exact fun _ he hurl => absurd ⟨he, hurl⟩ habout
      · rw [phaseAt_of (show (s.posted _ _).sys.webhooks _ = _ from hj), if_neg habout]
        simp
  | postFailed hj =>
    refine hs.moveWebhook (hs.webhooks _ _ hj) (fun h => by cases h) ?_
    rw [phaseAt_of hj]
    split <;> simp
  | @markWebhook j e' msg hj =>
    by_cases habout : e' = e ∧ msg.webhookURL = url
    · obtain ⟨rfl, rfl⟩ := habout
      exact once_mark hs hj rfl
    · refine hs.marked.moveWebhook (hs.webhooks _ _ hj) (fun h => by cases h) ?_
      rw [phaseAt_of (show (s.marked _ _ _).sys.webhooks _ = _ from hj), if_neg habout]
      simp
  | markJob => exact hs.marked

theorem once_init (cfg : Config) (now : Int) (e : IncomingEventMessage) (url : String)
    (subs : String → List WebhookSubscription) :
    Once e url (Duration.seconds cfg.queueDedupTTLSeconds) (init cfg now subs) where
  published := by
    intro entry hmem
    cases hmem
  webhooks := by
    intro j d hd
    cases hd
  lasts := lasts_provideDedup cfg now
  clock := by
    intro time htime
    cases htime
  enabled := by
    intro j phase hphase
    cases hphase
  single := by
    intro i j p q hp
    cases hp
  covered := .inl rfl

theorem Once.length_postsTo (hs : Once e url ttl s) : (postsTo e url s).length ≤ 1 := by
  rcases hs.covered with hnone | ⟨time, hsent, -⟩
  · simp [hnone]
  · simp [hsent]

end Once

/-- However often the event and its delivery messages are retried or redelivered:
once some `Handle` has returned without an error, every matching subscription
has a delivery message, and no URL ever gets a second webhook for the event. -/
theorem fan_out_complete_once (buildWebhookPayload : IncomingEventMessage → String) (cfg : Config)
    (now : Int) (subs : String → List WebhookSubscription) (e : IncomingEventMessage)
    (as : List Action) (s : State)
    (hrun : Run (step buildWebhookPayload) (OneAtATime e) (init cfg now subs) as s) :
    (∀ i, s.sys.events i = some ⟨e, .done none⟩ → AllPublished e subs s) ∧
      ∀ url, (postsTo e url s).length ≤ 1 := by
  have hcomplete := hrun.invariant (complete_init cfg now e subs)
    fun _ _ _ hguard hstep hs => complete_step hstep hguard hs
  refine ⟨fun i hi => hcomplete.reached i _ hi rfl, fun url => ?_⟩
  have honce := hrun.invariant (once_init cfg now e url subs)
    fun _ _ _ hguard hstep hs => once_step hstep hguard hs
  exact honce.length_postsTo

section Sample

/-- `OneAtATime` for schedules with at most `n` deliveries of delivery messages. -/
def Sequential (n : Nat) (e : IncomingEventMessage) (s : State) : Action → Prop
  | .handlers (.subscribe _ _) => False
  | .handlers (.deliverEvent _ e') => e' = e
  | .handlers (.deliverWebhook j _) => j < n
  | .handlers (.checkWebhook _) => s.sys.dedup.isSome = true ∧
      (∀ cache ∈ s.sys.dedup, ∀ post ∈ s.posts, s.sys.now < post.time + cache.ttl) ∧
      ∀ k < n, ∀ d ∈ s.sys.webhooks k, between d.phase = false
  | _ => True

instance Sequential.decidable (n : Nat) (e : IncomingEventMessage) (s : State) :
    ∀ a, Decidable (Sequential n e s a)
  | .handlers (.subscribe _ _) => inferInstanceAs (Decidable False)
  | .handlers (.deliverEvent _ e') => inferInstanceAs (Decidable (e' = e))
  | .handlers (.deliverWebhook j _) => inferInstanceAs (Decidable (j < n))
  | .handlers (.checkWebhook _) => inferInstanceAs (Decidable (_ ∧ _ ∧ _))
  | .handlers (.tick _) => inferInstanceAs (Decidable True)
  | .handlers (.checkEvent _) => inferInstanceAs (Decidable True)
  | .handlers (.readSubscriptions _ _) => inferInstanceAs (Decidable True)
  | .handlers (.publishWebhook _ _) => inferInstanceAs (Decidable True)
  | .handlers (.markEvent _) => inferInstanceAs (Decidable True)
  | .handlers (.postWebhook _ _) => inferInstanceAs (Decidable True)
  | .handlers (.markWebhook _) => inferInstanceAs (Decidable True)
  | .handlers (.markJob _) => inferInstanceAs (Decidable True)
  | .publishLost _ _ => inferInstanceAs (Decidable True)

variable {buildWebhookPayload : IncomingEventMessage → String} {e : IncomingEventMessage}
  {n : Nat} {s t : State} {a : Action}

/-- No other deliveries of delivery messages are there. -/
def Bounded (n : Nat) (s : State) : Prop := ∀ k, n ≤ k → s.sys.webhooks k = none

theorem Bounded.moveWebhook {j : Nat} {d d' : WebhookDelivery} (hs : Bounded n s)
    (hj : s.sys.webhooks j = some d) : Bounded n (s.moveWebhook j d') := by
  intro k hk
  have hkj : k ≠ j := by
    rintro rfl
    rw [hs k hk] at hj
    cases hj
  simpa [State.moveWebhook, State.putWebhook, hkj] using hs k hk

theorem bounded_step (hguard : Sequential n e s a)
    (hstep : step buildWebhookPayload s a = some t) (hs : Bounded n s) : Bounded n t := by
  cases step_stepped hstep with
  | subscribe => exact absurd hguard id
  | @deliverWebhook j =>
    have hj : j < n := hguard
    intro k hk
    have hkj : k ≠ j := by omega
    simpa [State.moveWebhook, State.putWebhook, hkj] using hs k hk
  | skipWebhook hj => exact hs.moveWebhook hj
  | passWebhook hj => exact hs.moveWebhook hj
  | post hj => exact hs.moveWebhook hj
  | postFailed hj => exact hs.moveWebhook hj
  | markWebhook hj => exact hs.moveWebhook hj
  | _ => exact hs

theorem Sequential.oneAtATime (h : Sequential n e s a) (hs : Bounded n s) : OneAtATime e s a := by
  cases a with
  | publishLost i err => trivial
  | handlers a =>
    cases a with
    | subscribe => exact h
    | deliverEvent => exact fun _ => h
    | checkWebhook j =>
      intro d hd he
      obtain ⟨hsome, hwithin, hnobody⟩ := h
      obtain ⟨cache, hcache⟩ := Option.isSome_iff_exists.mp hsome
      refine ⟨cache, hcache, fun time htime => ?_, fun k phase hphase => ?_⟩
      · obtain ⟨post, hpost, rfl⟩ := List.mem_map.mp htime
        exact hwithin cache hcache post (List.mem_filter.mp hpost).1
      · obtain ⟨d', hd', hfound⟩ := Option.bind_eq_some_iff.mp hphase
        have hk : k < n := by
          by_contra hk
          rw [hs k (Nat.le_of_not_lt hk)] at hd'
          cases hd'
        split at hfound
        · rw [← Option.some.inj hfound]
          exact hnobody k hk d' hd'
        · cases hfound
    | _ => trivial

def sampleEvent : IncomingEventMessage := groupMessage "628111"

/-- Two subscriptions to incoming messages, and one to other events. -/
def sampleSubscriptions : String → List WebhookSubscription := fun _ =>
  [subscriptionTo "https://a.example/hook", ⟨"https://b.example/hook", "", "message.sent"⟩,
    subscriptionTo "https://c.example/hook"]

/-- The event reaches the handler, which passes it on. -/
def readsEvent (i : Nat) : List Action :=
  [.deliverEvent i sampleEvent, .checkEvent i, .readSubscriptions i none].map .handlers

/-- A delivery message is delivered, and its webhook as well. -/
def posts (j k : Nat) : List Action :=
  [.deliverWebhook j k, .checkWebhook j, .postWebhook j none, .markWebhook j].map .handlers

/-- The second publish is taken but reports an error, and the event is retried:
both subscriptions get two messages. The repeated ones are skipped. -/
def retried : List Action :=
  readsEvent 0 ++ [.handlers (.publishWebhook 0 none), .publishLost 0 "confirm timed out"] ++
    readsEvent 1 ++ [.publishWebhook 1 none, .publishWebhook 1 none, .markEvent 1].map .handlers ++
    posts 0 0 ++ posts 1 1 ++
    [.deliverWebhook 2 2, .checkWebhook 2, .deliverWebhook 3 3, .checkWebhook 3].map .handlers

def sampleStep : State → Action → Option State := step fun _ => "payload"

def sampleStart : State := init {} 0 sampleSubscriptions

theorem retried_run : Run sampleStep (OneAtATime sampleEvent) sampleStart retried
    (final sampleStep sampleStart retried) := by
  have hrun : Run sampleStep (Sequential 4 sampleEvent) sampleStart retried
      (final sampleStep sampleStart retried) :=
    Run.to_final (by decide +kernel) (by decide +kernel)
  have hstart : Bounded 4 sampleStart := fun _ _ => rfl
  have hbounded := hrun.strengthen hstart fun _ _ _ hguard hstep hs => bounded_step hguard hstep hs
  exact hbounded.mono fun _ _ hguard => hguard.1.oneAtATime hguard.2

theorem fan_out_complete_once_retried :
    AllPublished sampleEvent sampleSubscriptions (final sampleStep sampleStart retried) ∧
      (postsTo sampleEvent "https://a.example/hook"
        (final sampleStep sampleStart retried)).length ≤ 1 := by
  have hboth := fan_out_complete_once (fun _ => "payload") {} 0 sampleSubscriptions sampleEvent
    retried (final sampleStep sampleStart retried) retried_run
  have hdone : ((final sampleStep sampleStart retried).sys.events 1).map
      (fun d => (d.event, d.phase)) = some (sampleEvent, .done none) := by
    decide +kernel
  obtain ⟨⟨e, phase⟩, hevent, hparts⟩ := Option.map_eq_some_iff.mp hdone
  cases hparts
  exact ⟨hboth.1 1 hevent, hboth.2 _⟩

end Sample

end WhatsappGateway.FanOut
