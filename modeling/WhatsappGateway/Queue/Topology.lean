import Mathlib
import WhatsappGateway.Lib.Glob
import WhatsappGateway.Queue.WorkerPool

/-!
The exchanges, queues and bindings that `setupTopology` declares, and the way of a retry
copy through them: into a retry queue, and after its delay back to the queue that its
message came from.

What the broker does with the declarations is defined here as it is documented: the
matching of routing keys, and how long a queue holds a message.
-/

namespace WhatsappGateway.Queue

open Lib WorkerPool

def exchangeName : String := "whatsapp.topic"

def exchangeDLX : String := "whatsapp.dlx"

def exchangeType : String := "topic"

def routingKeyIncomingEvent : String := "event.incoming"

def routingKeyWebhook : String := "webhook.delivery"

def routingKeyOutgoingMsg : String := "message.outgoing"

/-! ### Declarations -/

/-- The arguments of a queue: `x-dead-letter-exchange`, `x-dead-letter-routing-key` and
`x-message-ttl`. -/
structure QueueArgs where
  deadLetterExchange : Option String := none
  deadLetterRoutingKey : Option String := none
  messageTTL : Option Int := none
deriving DecidableEq, Repr

inductive Declaration where
  | exchange (name kind : String)
  | queue (name : String) (args : QueueArgs)
  | bind (queue key exchange : String)
deriving DecidableEq, Repr

/-- A call of the channel, and how the error it returns is reported. -/
structure Step where
  declaration : Declaration
  failure : String

structure MainQueue where
  name : String
  routingKey : String
  dlq : String
deriving DecidableEq, Repr

/-- The `queues` of `setupTopology`. -/
def topologyQueues : List MainQueue :=
  [⟨queueIncomingEvents, routingKeyIncomingEvent, dlqIncomingEvents⟩,
    ⟨queueWebhookDelivery, routingKeyWebhook, dlqWebhookDelivery⟩,
    ⟨queueOutgoingMessages, routingKeyOutgoingMsg, dlqOutgoingMessages⟩]

/-- What is declared for a tier of delays: a TTL of the queue, and the way back. -/
def tierSteps (q : MainQueue) (tier : Int) : List Step :=
  let retryQueue := retryTierQueueName q.name tier
  [⟨.queue retryQueue {
      deadLetterExchange := some exchangeName
      deadLetterRoutingKey := some q.routingKey
      messageTTL := some (Duration.milliseconds tier) },
      "failed to declare retry queue " ++ retryQueue⟩,
    ⟨.bind retryQueue retryQueue exchangeName, "failed to bind retry queue " ++ retryQueue⟩]

def queueSteps (q : MainQueue) : List Step :=
  let longQueue := retryLongQueueName q.name
  [⟨.queue q.dlq {}, "failed to declare DLQ " ++ q.dlq⟩,
    ⟨.bind q.dlq q.dlq exchangeDLX, "failed to bind DLQ " ++ q.dlq⟩,
    ⟨.queue q.name {
      deadLetterExchange := some exchangeDLX
      deadLetterRoutingKey := some q.dlq },
      "failed to declare queue " ++ q.name⟩] ++
    retryTiers.flatMap (tierSteps q) ++
    [⟨.queue longQueue {
        deadLetterExchange := some exchangeName
        deadLetterRoutingKey := some q.routingKey },
        "failed to declare retry queue " ++ longQueue⟩,
      ⟨.bind longQueue longQueue exchangeName, "failed to bind retry queue " ++ longQueue⟩,
      ⟨.bind q.name q.routingKey exchangeName, "failed to bind queue " ++ q.name⟩]

def topologySteps : List Step :=
  [⟨.exchange exchangeName exchangeType, "failed to declare exchange"⟩,
    ⟨.exchange exchangeDLX "direct", "failed to declare DLX"⟩] ++
    topologyQueues.flatMap queueSteps

/-- The steps in order, up to the first that fails; what has been declared, and the error. -/
def runSteps (ch : Declaration → Option String) : List Step → List Declaration × Option String
  | [] => ([], none)
  | step :: steps =>
    match ch step.declaration with
    | some err => ([], some (step.failure ++ ": " ++ err))
    | none =>
      let result := runSteps ch steps
      (step.declaration :: result.1, result.2)

/-- `ch` answers each call of the channel. -/
def setupTopology (ch : Declaration → Option String) : List Declaration × Option String :=
  runSteps ch topologySteps

/-! ### The broker -/

/-- The words of a routing key. -/
def keyWords (key : String) : List (List Char) := key.toList.splitOn '.'

/-- A binding key of a topic exchange: `*` is one word, and `#` any number of words. -/
def topicPattern (bindingKey : String) : Glob (List Char) :=
  (keyWords bindingKey).map fun word =>
    if word = ['*'] then .one
    else if word = ['#'] then .many
    else .lit word

def exchangeKind (made : List Declaration) (exchange : String) : Option String :=
  made.findSome? fun
    | .exchange name kind => if name = exchange then some kind else none
    | _ => none

/-- A binding takes a message with this key. -/
def takes (kind bindingKey key : String) : Bool :=
  if kind = "topic" then (topicPattern bindingKey).accepts (keyWords key)
  else decide (bindingKey = key)

/-- The bindings of an exchange: each queue, and the key under which it is bound. -/
def bindings (made : List Declaration) (exchange : String) : List (String × String) :=
  made.filterMap fun
    | .bind queue key from_ => if from_ = exchange then some (queue, key) else none
    | _ => none

/-- The queues that an exchange routes a message to, one for each binding that takes it. -/
def routes (made : List Declaration) (exchange key : String) : List String :=
  match exchangeKind made exchange with
  | none => []
  | some kind => ((bindings made exchange).filter fun b => takes kind b.2 key).map Prod.fst

def queues (made : List Declaration) : List (String × QueueArgs) :=
  made.filterMap fun
    | .queue name args => some (name, args)
    | _ => none

/-- The arguments with which a queue of this name is declared. -/
def queueArgs (made : List Declaration) (name : String) : List QueueArgs :=
  ((queues made).filter fun q => q.1 = name).map Prod.snd

/-- The milliseconds after which a message leaves a queue: the lower of the TTL of the queue
and the expiration of the message. With neither it stays. -/
def timeToLive (args : QueueArgs) (expiration : String) : Option Int :=
  match args.messageTTL, expiration.toInt? with
  | some ttl, some ms => some (min ttl ms)
  | some ttl, none => some ttl
  | none, ms => ms

/-! ### Topic keys -/

/-- No word of a key without these characters is a wildcard. -/
def PlainKey (key : String) : Prop := '*' ∉ key.toList ∧ '#' ∉ key.toList

instance (key : String) : Decidable (PlainKey key) := inferInstanceAs (Decidable (_ ∧ _))

theorem keyWords_injective : Function.Injective keyWords := by
  intro key key' heq
  have hjoin : ['.'].intercalate (keyWords key) = ['.'].intercalate (keyWords key') := by
    rw [heq]
  unfold keyWords at hjoin
  rw [List.intercalate_splitOn, List.intercalate_splitOn] at hjoin
  exact String.toList_injective hjoin

/-- A letter of a word is a letter of the key. -/
theorem mem_of_mem_splitOn {chars word : List Char} {c : Char}
    (hword : word ∈ chars.splitOn '.') (hc : c ∈ word) : c ∈ chars := by
  induction chars generalizing word with
  | nil =>
    obtain rfl := List.mem_singleton.mp hword
    exact hc
  | cons d chars ih =>
    rw [List.splitOn_cons_eq_if_modifyHead] at hword
    split at hword
    · rcases List.mem_cons.mp hword with rfl | hword
      · cases hc
      · exact List.mem_cons_of_mem d (ih hword hc)
    · obtain ⟨first, more, hsplit⟩ := List.exists_cons_of_ne_nil (List.splitOn_ne_nil '.' chars)
      rw [hsplit] at hword ih
      rcases List.mem_cons.mp hword with rfl | hmore
      · rcases List.mem_cons.mp hc with rfl | hfirst
        · exact List.mem_cons_self
        · exact List.mem_cons_of_mem d (ih List.mem_cons_self hfirst)
      · exact List.mem_cons_of_mem d (ih (List.mem_cons_of_mem first hmore) hc)

theorem topicPattern_plain {key : String} (hplain : PlainKey key) :
    topicPattern key = Glob.literal (keyWords key) := by
  unfold topicPattern Glob.literal
  apply List.map_congr_left
  intro word hword
  have hstar : word ≠ ['*'] := by
    rintro rfl
    exact hplain.1 (mem_of_mem_splitOn hword (List.mem_singleton_self _))
  have hhash : word ≠ ['#'] := by
    rintro rfl
    exact hplain.2 (mem_of_mem_splitOn hword (List.mem_singleton_self _))
  rw [if_neg hstar, if_neg hhash]

/-- A plain key is bound for itself only. -/
theorem takes_plain {bindingKey key : String} (hplain : PlainKey bindingKey) :
    takes exchangeType bindingKey key = decide (bindingKey = key) := by
  rw [takes, exchangeType, if_pos rfl, topicPattern_plain hplain, Bool.eq_iff_iff,
    Glob.accepts_literal, decide_eq_true_eq]
  constructor
  · exact fun heq => (keyWords_injective heq).symm
  · rintro rfl
    rfl

/-! ### What is declared -/

/-- Everything that a setup without an error declares. -/
def declarations : List Declaration := topologySteps.map Step.declaration

theorem runSteps_ok {ch : Declaration → Option String} {steps : List Step}
    (hok : (runSteps ch steps).2 = none) :
    (runSteps ch steps).1 = steps.map Step.declaration := by
  induction steps with
  | nil => rfl
  | cons step steps ih =>
    unfold runSteps at hok ⊢
    cases hstep : ch step.declaration with
    | some err =>
      rw [hstep] at hok
      cases hok
    | none =>
      rw [hstep] at hok
      dsimp only
      rw [ih hok, List.map_cons]

theorem setupTopology_ok {ch : Declaration → Option String} (hok : (setupTopology ch).2 = none) :
    (setupTopology ch).1 = declarations :=
  runSteps_ok hok

variable {q : MainQueue} {tier : Int} {d : Declaration}

theorem mem_declarations (hq : q ∈ topologyQueues)
    (hd : d ∈ (queueSteps q).map Step.declaration) : d ∈ declarations := by
  obtain ⟨step, hstep, rfl⟩ := List.mem_map.mp hd
  refine List.mem_map.mpr ⟨step, ?_, rfl⟩
  exact List.mem_append_right _ (List.mem_flatMap.mpr ⟨q, hq, hstep⟩)

theorem tier_mem_declarations (hq : q ∈ topologyQueues) (htier : tier ∈ retryTiers)
    (hd : d ∈ (tierSteps q tier).map Step.declaration) : d ∈ declarations := by
  obtain ⟨step, hstep, rfl⟩ := List.mem_map.mp hd
  refine mem_declarations hq (List.mem_map.mpr ⟨step, ?_, rfl⟩)
  apply List.mem_append_left
  exact List.mem_append_right _ (List.mem_flatMap.mpr ⟨tier, htier, hstep⟩)

/-- Of a list without duplicates under `f`, a filter for one value of `f` leaves one element. -/
theorem filter_eq_singleton {α β : Type} [DecidableEq β] {f : α → β} {l : List α} {x : α}
    (hnodup : (l.map f).Nodup) (hx : x ∈ l) : l.filter (fun y => f y = f x) = [x] := by
  induction l with
  | nil => cases hx
  | cons y l ih =>
    obtain ⟨hy, hnodup⟩ := List.nodup_cons.mp hnodup
    rcases List.mem_cons.mp hx with rfl | hx
    · rw [List.filter_cons_of_pos (by simp), List.filter_eq_nil_iff.mpr]
      intro z hz
      rw [decide_eq_true_eq]
      intro heq
      exact hy (heq ▸ List.mem_map_of_mem hz)
    · have hne : f y ≠ f x := by
        intro heq
        exact hy (heq ▸ List.mem_map_of_mem hx)
      rw [List.filter_cons_of_neg (by simpa using hne), ih hnodup hx]

/-- The names of the queues differ, and so do the keys of the topic exchange, which are plain. -/
theorem declarations_distinct :
    ((queues declarations).map Prod.fst).Nodup ∧
      ((bindings declarations exchangeName).map Prod.snd).Nodup ∧
      ∀ b ∈ bindings declarations exchangeName, PlainKey b.2 := by
  decide +kernel

theorem queueArgs_declared {name : String} {args : QueueArgs}
    (hmem : Declaration.queue name args ∈ declarations) : queueArgs declarations name = [args] := by
  have hqueue : (name, args) ∈ queues declarations :=
    List.mem_filterMap.mpr ⟨.queue name args, hmem, rfl⟩
  rw [queueArgs, filter_eq_singleton declarations_distinct.1 hqueue]
  rfl

theorem routes_bound {queue key : String}
    (hmem : Declaration.bind queue key exchangeName ∈ declarations) :
    routes declarations exchangeName key = [queue] := by
  have hbinding : (queue, key) ∈ bindings declarations exchangeName :=
    List.mem_filterMap.mpr ⟨.bind queue key exchangeName, hmem, if_pos rfl⟩
  have hkind : exchangeKind declarations exchangeName = some exchangeType := by decide +kernel
  have htakes : ∀ b ∈ bindings declarations exchangeName,
      takes exchangeType b.2 key = decide (b.2 = key) :=
    fun b hb => takes_plain (declarations_distinct.2.2 b hb)
  rw [routes, hkind]
  dsimp only
  rw [List.filter_congr htakes, filter_eq_singleton declarations_distinct.2.1 hbinding]
  rfl

/-! ### The way of a retry copy -/

/-- `publishRetry` publishes to the topic exchange. There the copy goes to a queue that is declared
and bound under the copy's key, and that dead-letters to the queue `q`. -/
structure LeadsBack (made : List Declaration) (q : MainQueue) (copy : Publishing)
    (args : QueueArgs) : Prop where
  declared : queueArgs made copy.routingKey = [args]
  bound : .bind copy.routingKey copy.routingKey exchangeName ∈ made
  routed : routes made exchangeName copy.routingKey = [copy.routingKey]
  deadLetterExchange : args.deadLetterExchange = some exchangeName
  deadLetterRoutingKey : args.deadLetterRoutingKey = some q.routingKey
  back : routes made exchangeName q.routingKey = [q.name]

/-- The queue holds the copy for the delay, or for less than a millisecond less. A delay is in
nanoseconds, a TTL and an expiration are in milliseconds. -/
structure HeldFor (q : MainQueue) (delay : Int) (copy : Publishing) (args : QueueArgs) : Prop where
  ttl : ∀ ttl, args.messageTTL = some ttl → delay ≤ ttl * 1000000
  expiration : args.messageTTL = none → copy.expiration = toString (delay / 1000000)
  expires_iff : copy.expiration ≠ "" ↔ args.messageTTL = none
  long_iff : args.messageTTL = none ↔ copy.routingKey = retryLongQueueName q.name
  leaves : ∃ ms, timeToLive args copy.expiration = some ms ∧ delay < (ms + 1) * 1000000

theorem back_bound (hq : q ∈ topologyQueues) :
    routes declarations exchangeName q.routingKey = [q.name] :=
  routes_bound (mem_declarations hq (by simp [queueSteps]))

theorem tier_names_ne_long : ∀ q ∈ topologyQueues, ∀ tier ∈ retryTiers,
    retryTierQueueName q.name tier ≠ retryLongQueueName q.name := by
  decide +kernel

/-- A tier is a whole number of milliseconds. -/
theorem tier_milliseconds : ∀ tier ∈ retryTiers, Duration.milliseconds tier * 1000000 = tier := by
  decide

theorem toInt?_empty : ("" : String).toInt? = none := by
  rw [String.toInt?_eq_none_iff, ← Bool.not_eq_true, String.isInt_iff, String.isNat_iff]
  rintro (⟨hne, -⟩ | ⟨digits, hsign, -⟩)
  · exact hne rfl
  · have hlist := congrArg String.toList hsign
    simp at hlist

theorem toString_ne_empty (n : Int) : toString n ≠ "" := by
  intro heq
  have hparse := Int.toInt?_repr n
  rw [show n.repr = "" from heq, toInt?_empty] at hparse
  cases hparse

/-- A delay beyond the tiers is positive, so that it is rounded down. -/
theorem milliseconds_long {delay : Int} (hdelay : ∀ tier ∈ retryTiers, tier < delay) :
    Duration.milliseconds delay = delay / 1000000 := by
  have hpos : (1 * Duration.second : Int) < delay := hdelay _ (by simp [retryTiers])
  have hsecond : (0 : Int) ≤ 1 * Duration.second := by decide
  exact Int.tdiv_eq_ediv_of_nonneg (by omega)

/-- A retry copy of a tier. -/
theorem tier_copy {copy : Publishing} {delay : Int} (hq : q ∈ topologyQueues)
    (htier : tier ∈ retryTiers) (hdelay : delay ≤ tier)
    (hkey : copy.routingKey = retryTierQueueName q.name tier) (hexpiration : copy.expiration = "") :
    ∃ args, LeadsBack declarations q copy args ∧ HeldFor q delay copy args := by
  have hms := tier_milliseconds tier htier
  have hbind : Declaration.bind copy.routingKey copy.routingKey exchangeName ∈ declarations := by
    rw [hkey]
    exact tier_mem_declarations hq htier (by simp [tierSteps])
  refine ⟨⟨some exchangeName, some q.routingKey, some (Duration.milliseconds tier)⟩, ?_, ?_⟩
  · refine ⟨?_, hbind, routes_bound hbind, rfl, rfl, back_bound hq⟩
    rw [hkey]
    exact queueArgs_declared (tier_mem_declarations hq htier (by simp [tierSteps]))
  · refine ⟨?_, ?_, ?_, ?_, ⟨Duration.milliseconds tier, ?_, by omega⟩⟩
    · intro ttl httl
      obtain rfl := Option.some.inj httl
      omega
    · intro hnone
      cases hnone
    · exact iff_of_false (not_not.mpr hexpiration) (by simp)
    · refine iff_of_false (by simp) ?_
      rw [hkey]
      exact tier_names_ne_long q hq tier htier
    · rw [timeToLive, hexpiration, toInt?_empty]

/-- A retry copy of the long queue. -/
theorem long_copy {copy : Publishing} {delay : Int} (hq : q ∈ topologyQueues)
    (hdelay : ∀ tier ∈ retryTiers, tier < delay)
    (hkey : copy.routingKey = retryLongQueueName q.name)
    (hexpiration : copy.expiration = toString (Duration.milliseconds delay)) :
    ∃ args, LeadsBack declarations q copy args ∧ HeldFor q delay copy args := by
  have hbind : Declaration.bind copy.routingKey copy.routingKey exchangeName ∈ declarations := by
    rw [hkey]
    exact mem_declarations hq (by simp [queueSteps])
  rw [milliseconds_long hdelay] at hexpiration
  refine ⟨⟨some exchangeName, some q.routingKey, none⟩, ?_, ?_⟩
  · refine ⟨?_, hbind, routes_bound hbind, rfl, rfl, back_bound hq⟩
    rw [hkey]
    exact queueArgs_declared (mem_declarations hq (by simp [queueSteps]))
  · refine ⟨?_, fun _ => hexpiration, ?_, iff_of_true rfl hkey, ⟨delay / 1000000, ?_, by omega⟩⟩
    · intro ttl httl
      cases httl
    · refine iff_of_true ?_ rfl
      rw [hexpiration]
      exact toString_ne_empty _
    · rw [timeToLive, hexpiration]
      exact Int.toInt?_repr _

theorem retryPublishing_leads (hq : q ∈ topologyQueues) (task : RetryTask)
    (hqueue : task.queue = q.name) :
    ∃ args, LeadsBack declarations q (retryPublishing task) args ∧
      HeldFor q task.delay (retryPublishing task) args := by
  cases hfind : retryTiers.find? (task.delay ≤ ·) with
  | some tier =>
    have hroute : retryRoute task.queue task.delay = (retryTierQueueName q.name tier, false) := by
      rw [retryRoute, hfind, hqueue]
    have hdelay : task.delay ≤ tier := by simpa using List.find?_some hfind
    refine tier_copy hq (List.mem_of_find?_eq_some hfind) hdelay ?_ ?_
    · rw [retryPublishing, hroute]
    · rw [retryPublishing, hroute]
      rfl
  | none =>
    have hroute : retryRoute task.queue task.delay = (retryLongQueueName q.name, true) := by
      rw [retryRoute, hfind, hqueue]
    have hdelay : ∀ tier ∈ retryTiers, tier < task.delay := by
      simpa using List.find?_eq_none.mp hfind
    refine long_copy hq hdelay ?_ ?_
    · rw [retryPublishing, hroute]
    · rw [retryPublishing, hroute]
      rfl

/-- For every main queue and every delay, the copy that `publishRetry` sends goes to a retry queue
that leads back, and stays there for the delay. -/
theorem retry_leads_back (ch : Declaration → Option String) (hok : (setupTopology ch).2 = none)
    (q : MainQueue) (hq : q ∈ topologyQueues) (task : RetryTask) (hqueue : task.queue = q.name) :
    ∃ args, LeadsBack (setupTopology ch).1 q (retryPublishing task) args ∧
      HeldFor q task.delay (retryPublishing task) args := by
  rw [setupTopology_ok hok]
  exact retryPublishing_leads hq task hqueue

theorem retry_leads_back_long :
    ∃ args, LeadsBack (setupTopology fun _ => none).1
        ⟨queueOutgoingMessages, routingKeyOutgoingMsg, dlqOutgoingMessages⟩
        (retryPublishing ⟨queueOutgoingMessages, fun _ => none, [], 90 * Duration.second⟩) args ∧
      HeldFor ⟨queueOutgoingMessages, routingKeyOutgoingMsg, dlqOutgoingMessages⟩
        (90 * Duration.second)
        (retryPublishing ⟨queueOutgoingMessages, fun _ => none, [], 90 * Duration.second⟩) args :=
  retry_leads_back (fun _ => none) (by decide +kernel) _ (by simp [topologyQueues]) _ rfl

end WhatsappGateway.Queue
