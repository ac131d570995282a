import WhatsappGateway.Lib.Recency
import WhatsappGateway.Queue.FailedFinal
import WhatsappGateway.Queue.RabbitMQ
import WhatsappGateway.Queue.Topology

/-!
Where a dead letter comes from. The broker notes each death of a message in a header, the most
recent first and one entry for a queue and a reason; a retry copy carries the header along. The
handler of the dead letters looks for a rejection among them.

What the broker does with a message is defined here as it is documented, over the declarations
of a setup without an error.
-/

namespace WhatsappGateway.DeadLetters

open Lib Queue WorkerPool

/-! ### Headers with arrays -/

inductive Item where
  | value (v : HeaderValue)
  | table (fields : Table)

inductive Field where
  | value (v : HeaderValue)
  | array (items : List Item)

abbrev Headers := String → Option Field

structure Message where
  headers : Option Headers
  body : Body
  expiration : String

def Message.header (msg : Message) (key : String) : Option Field := msg.headers.bind (· key)

/-- What a worker makes of a field. It reads no array. -/
def Field.read : Field → HeaderValue
  | .value v => v
  | .array _ => .other "array"

def Headers.read (headers : Headers) : Table := fun key => (headers key).map Field.read

/-- The headers after a worker has written to them: `written` is what it then reads. -/
def Headers.write (headers : Headers) (written : Table) : Headers := fun key =>
  if written key = headers.read key then headers key else (written key).map .value

/-- The delivery as a worker reads it. -/
def Message.delivery (msg : Message) : Delivery := ⟨msg.headers.map Headers.read, msg.body⟩

/-- A retry copy on its way, with all headers of the message. -/
def Message.copy (msg : Message) (copy : Publishing) : Message :=
  ⟨some ((msg.headers.getD fun _ => none).write copy.headers), copy.body, copy.expiration⟩

/-- The headers that the handler of a message gets. -/
def Message.handled (msg : Message) (fresh : String) : Headers :=
  (msg.headers.getD fun _ => none).write (handlerHeaders msg.delivery fresh)

/-! ### The source of a dead letter -/

def xDeath : String := "x-death"

/-- `v.(string)`. -/
def string? : Option HeaderValue → Option String
  | some (.string s) => some s
  | _ => none

/-- The queue of an entry for a rejection. -/
def rejectedQueue : Item → Option String
  | .table death =>
    if string? (death "reason") ≠ some "rejected" then none else string? (death "queue")
  | .value _ => none

/-- The fallback. -/
def firstQueue : List Item → Option String
  | .table death :: _ => string? (death "queue")
  | _ => none

def dlqSourceQueue (headers : Headers) : String :=
  match headers xDeath with
  | some (.array deaths) =>
    match deaths.findSome? rejectedQueue with
    | some queueName => queueName
    | none => (firstQueue deaths).getD ""
  | _ => ""

/-! ### The broker -/

/-- The queue and the reason of an entry. -/
def deathKey : Item → Option (String × String)
  | .table death =>
    match string? (death "queue"), string? (death "reason") with
    | some queue, some reason => some (queue, reason)
    | _, _ => none
  | .value _ => none

def deathCount : Item → Int
  | .table death =>
    match death "count" with
    | some (.int n) | some (.int32 n) | some (.int64 n) => n
    | _ => 0
  | .value _ => 0

/-- An entry, as far as anything reads it. -/
def newDeath (queue reason : String) (count : Int) : Item :=
  .table fun key =>
    if key = "queue" then some (.string queue)
    else if key = "reason" then some (.string reason)
    else if key = "count" then some (.int64 count)
    else none

/-- The entry for the queue and the reason counts one more, and moves to the front. -/
def recordDeath (queue reason : String) (deaths : List Item) : List Item :=
  touch deathKey (some (queue, reason))
    (fun old => newDeath queue reason ((old.map deathCount).getD 0 + 1)) deaths

def Message.deaths (msg : Message) : List Item :=
  match msg.header xDeath with
  | some (.array deaths) => deaths
  | _ => []

/-- A message that is dead-lettered loses its expiration, so that it does not expire again. -/
def Message.die (msg : Message) (queue reason : String) : Message where
  headers := some (Function.update (msg.headers.getD fun _ => none) xDeath
    (some (.array (recordDeath queue reason msg.deaths))))
  body := msg.body
  expiration := ""

/-- The queues a dead letter goes to. Without an exchange it is dropped; each queue that has one
has a routing key too. -/
def deadLetter (queue reason : String) (msg : Message) : List (String × Message) :=
  (queueArgs declarations queue).flatMap fun args =>
    match args.deadLetterExchange, args.deadLetterRoutingKey with
    | some exchange, some key =>
      (routes declarations exchange key).map fun target => (target, msg.die queue reason)
    | _, _ => []

/-- The same field, up to the type of an integer. -/
def SameField : Option Field → Option Field → Prop
  | some (.value v), back => ∃ w, back = some (.value w) ∧ v.Same w
  | some (.array items), back => back = some (.array items)
  | none, back => back = none

/-- A message as it comes off the wire. -/
structure Received (sent back : Message) : Prop where
  fields : ∀ key, SameField (sent.header key) (back.header key)
  body : back.body = sent.body
  expiration : back.expiration = sent.expiration

/-- A message comes to a queue: one that is published to a main queue, a retry copy of a worker,
or a dead letter. A message that is requeued stays where it is. -/
inductive Arrives (cfg : Config) : String → Message → Prop where
  | published {q : MainQueue} {target : String} (body : Body) :
      q ∈ topologyQueues → target ∈ routes declarations exchangeName q.routingKey →
      Arrives cfg target ⟨none, body, ""⟩
  | received {queue : String} {sent back : Message} :
      Arrives cfg queue sent → Received sent back → Arrives cfg queue back
  /-- the handler of the dead letters returns no error, so that they are not retried -/
  | retried {q : MainQueue} {msg : Message} {fresh : String} {outcome : HandlerOutcome}
      {report : PublishOutcome} {copy : Publishing} {err : Option String} {target : String} :
      q ∈ topologyQueues → Arrives cfg q.name msg →
      .publish copy err ∈ processMessage cfg q.name msg.delivery fresh outcome report →
      target ∈ routes declarations exchangeName copy.routingKey →
      Arrives cfg target (msg.copy copy)
  | expired {queue : String} {msg : Message} {args : QueueArgs} {ms : Int} {target : String}
      {dead : Message} :
      Arrives cfg queue msg → args ∈ queueArgs declarations queue →
      timeToLive args msg.expiration = some ms → (target, dead) ∈ deadLetter queue "expired" msg →
      Arrives cfg target dead
  | rejected {queue : String} {msg : Message} {fresh : String} {outcome : HandlerOutcome}
      {report : PublishOutcome} {target : String} {dead : Message} :
      queue ∈ RabbitMQ.registrations true → Arrives cfg queue msg →
      .dispose (.nack false) ∈ processMessage cfg queue msg.delivery fresh outcome report →
      (target, dead) ∈ deadLetter queue "rejected" msg → Arrives cfg target dead

variable {cfg : Config} {q : MainQueue} {queue reason fresh : String} {msg back : Message}
  {deaths : List Item}

/-! ### What a worker keeps of the headers -/

theorem Headers.read_write (headers : Headers) (written : Table) :
    (headers.write written).read = written := by
  funext key
  unfold Headers.read Headers.write
  split
  · rename_i hkept
    exact hkept.symm
  · cases written key with
    | none => rfl
    | some v => rfl

theorem Headers.write_kept {headers : Headers} {written : Table} {key : String}
    (hkept : written key = headers.read key) : headers.write written key = headers key :=
  if_pos hkept

theorem delivery_headers (msg : Message) :
    (msg.delivery.headers.getD fun _ => none) = (msg.headers.getD fun _ => none).read := by
  unfold Message.delivery
  cases msg.headers with
  | none => rfl
  | some headers => rfl

/-- Of a retry copy a worker reads what the worker before it has written. -/
theorem delivery_copy (msg : Message) (copy : Publishing) :
    (msg.copy copy).delivery = ⟨some copy.headers, copy.body⟩ := by
  rw [Message.delivery, Message.copy, Option.map_some, Headers.read_write]

/-- The worker writes the trace id. -/
theorem handlerHeaders_kept (msg : Message) (fresh : String) {key : String}
    (hkey : key ≠ traceIDKey) :
    handlerHeaders msg.delivery fresh key = (msg.headers.getD fun _ => none).read key := by
  rw [handlerHeaders, Function.update_of_ne hkey, delivery_headers]

/-- For a retry it writes the count too. -/
theorem retryTask_kept (queue : String) (msg : Message) (fresh : String) (err : HandlerError)
    {key : String} (htrace : key ≠ traceIDKey) (hcount : key ≠ retryCountKey) :
    (retryTask queue msg.delivery fresh err).headers key =
      (msg.headers.getD fun _ => none).read key :=
  (Function.update_of_ne hcount _ _).trans (handlerHeaders_kept msg fresh htrace)

theorem getD_header (msg : Message) (key : String) :
    (msg.headers.getD fun _ => none) key = msg.header key := by
  unfold Message.header
  cases msg.headers with
  | none => rfl
  | some headers => rfl

theorem handled_xDeath (msg : Message) (fresh : String) :
    msg.handled fresh xDeath = msg.header xDeath := by
  rw [Message.handled, Headers.write_kept (handlerHeaders_kept msg fresh (by decide)),
    getD_header]

/-- A retry copy has the deaths of the message it is a copy of. -/
theorem deaths_copy (queue : String) (msg : Message) (fresh : String) (err : HandlerError) :
    (msg.copy (retryPublishing (retryTask queue msg.delivery fresh err))).deaths = msg.deaths := by
  have hkept := retryTask_kept queue msg fresh err
    (by decide : xDeath ≠ traceIDKey) (by decide : xDeath ≠ retryCountKey)
  have hheader : (msg.copy (retryPublishing (retryTask queue msg.delivery fresh err))).header
      xDeath = msg.header xDeath := (Headers.write_kept hkept).trans (getD_header msg xDeath)
  rw [Message.deaths, hheader, Message.deaths]

theorem Received.deaths_eq (h : Received msg back) : back.deaths = msg.deaths := by
  have hfield := h.fields xDeath
  unfold Message.deaths
  cases hsent : msg.header xDeath with
  | none =>
    rw [hsent] at hfield
    rw [show back.header xDeath = none from hfield]
  | some field =>
    rw [hsent] at hfield
    cases field with
    | value v =>
      obtain ⟨w, hback, -⟩ := hfield
      rw [hback]
    | array items => rw [show back.header xDeath = some (.array items) from hfield]

/-! ### The deaths of a message -/

theorem deathKey_newDeath (queue reason : String) (count : Int) :
    deathKey (newDeath queue reason count) = some (queue, reason) := rfl

theorem deaths_die (msg : Message) (queue reason : String) :
    (msg.die queue reason).deaths = recordDeath queue reason msg.deaths := by
  have hheader : (msg.die queue reason).header xDeath =
      some (.array (recordDeath queue reason msg.deaths)) := by
    rw [Message.header, Message.die, Option.bind_some, Function.update_self]
  rw [Message.deaths, hheader]

def retryQueues (q : MainQueue) : List String :=
  retryTiers.map (retryTierQueueName q.name) ++ [retryLongQueueName q.name]

/-- The deaths of a message that has waited in the retry queues of a main queue only. -/
structure Waited (q : MainQueue) (deaths : List Item) : Prop where
  distinct : (deaths.map deathKey).Nodup
  expired : ∀ death ∈ deaths, ∃ queue ∈ retryQueues q, deathKey death = some (queue, "expired")

theorem Waited.nil (q : MainQueue) : Waited q [] := by
  refine ⟨List.nodup_nil, ?_⟩
  intro death hdeath
  cases hdeath

theorem Waited.expire (h : Waited q deaths) (hqueue : queue ∈ retryQueues q) :
    Waited q (recordDeath queue "expired" deaths) := by
  constructor
  · exact touch_nodup (fun old => deathKey_newDeath _ _ _) h.distinct
  · intro death hdeath
    rcases mem_of_mem_touch hdeath with rfl | hearlier
    · exact ⟨queue, hqueue, deathKey_newDeath _ _ _⟩
    · exact h.expired death hearlier

/-- A rejection is the first of its kind. -/
theorem Waited.reject (h : Waited q deaths) (queue : String) :
    recordDeath queue "rejected" deaths = newDeath queue "rejected" 1 :: deaths := by
  have hnew : some (queue, "rejected") ∉ deaths.map deathKey := by
    intro hmem
    obtain ⟨death, hdeath, hkey⟩ := List.mem_map.mp hmem
    obtain ⟨other, -, hexpired⟩ := h.expired death hdeath
    have hreason : "rejected" = "expired" :=
      congrArg Prod.snd (Option.some.inj (hkey.symm.trans hexpired))
    exact absurd hreason (by decide)
  exact touch_of_notMem hnew

/-! ### The ways of the broker -/

theorem deadLetter_declared {args : QueueArgs} {exchange key target : String}
    (hargs : queueArgs declarations queue = [args])
    (hexchange : args.deadLetterExchange = some exchange)
    (hkey : args.deadLetterRoutingKey = some key)
    (hroute : routes declarations exchange key = [target]) (msg : Message) :
    deadLetter queue reason msg = [(target, msg.die queue reason)] := by
  rw [deadLetter, hargs, List.flatMap_singleton, hexchange, hkey]
  dsimp only
  rw [hroute]
  rfl

theorem mainArgs (hq : q ∈ topologyQueues) :
    queueArgs declarations q.name = [⟨some exchangeDLX, some q.dlq, none⟩] :=
  queueArgs_declared (mem_declarations hq (by simp [queueSteps]))

theorem dlqArgs (hq : q ∈ topologyQueues) : queueArgs declarations q.dlq = [{}] :=
  queueArgs_declared (mem_declarations hq (by simp [queueSteps]))

theorem routes_dlx : ∀ q ∈ topologyQueues, routes declarations exchangeDLX q.dlq = [q.dlq] := by
  decide +kernel

theorem deadLetter_main (hq : q ∈ topologyQueues) (reason : String) (msg : Message) :
    deadLetter q.name reason msg = [(q.dlq, msg.die q.name reason)] :=
  deadLetter_declared (mainArgs hq) rfl rfl (routes_dlx q hq) msg

theorem deadLetter_dlq (hq : q ∈ topologyQueues) (reason : String) (msg : Message) :
    deadLetter q.dlq reason msg = [] := by
  rw [deadLetter, dlqArgs hq]
  rfl

theorem deadLetter_retry (hq : q ∈ topologyQueues) (hqueue : queue ∈ retryQueues q)
    (reason : String) (msg : Message) :
    deadLetter queue reason msg = [(q.name, msg.die queue reason)] := by
  rcases List.mem_append.mp hqueue with hmem | hlong
  · obtain ⟨tier, htier, rfl⟩ := List.mem_map.mp hmem
    have hargs := queueArgs_declared (tier_mem_declarations hq htier
      (List.mem_cons_self : _ ∈ (tierSteps q tier).map Step.declaration))
    exact deadLetter_declared hargs rfl rfl (back_bound hq) msg
  · obtain rfl := List.mem_singleton.mp hlong
    have hargs : queueArgs declarations (retryLongQueueName q.name) =
        [⟨some exchangeName, some q.routingKey, none⟩] :=
      queueArgs_declared (mem_declarations hq (by simp [queueSteps]))
    exact deadLetter_declared hargs rfl rfl (back_bound hq) msg

/-! ### What arrives -/

/-- The names of the queues differ. -/
theorem queue_names : ∀ q ∈ topologyQueues, ∀ p ∈ topologyQueues,
    (q.name = p.name → q = p) ∧ (q.dlq = p.dlq → q = p) ∧ q.name ≠ p.dlq ∧
      q.name ∉ retryQueues p ∧ q.dlq ∉ retryQueues p := by
  decide +kernel

/-- No worker consumes a retry queue. -/
theorem retry_not_registered : ∀ q ∈ topologyQueues, ∀ queue ∈ retryQueues q,
    queue ∉ RabbitMQ.registrations true := by
  decide +kernel

/-- What a message is like in its queue. -/
inductive Stays : String → Message → Prop where
  | main {q : MainQueue} {msg : Message} :
      q ∈ topologyQueues → Waited q msg.deaths → msg.expiration = "" → Stays q.name msg
  | waiting {q : MainQueue} {queue : String} {msg : Message} :
      q ∈ topologyQueues → queue ∈ retryQueues q → Waited q msg.deaths → Stays queue msg
  | dead {q : MainQueue} {msg : Message} {earlier : List Item} :
      q ∈ topologyQueues → msg.deaths = newDeath q.name "rejected" 1 :: earlier →
      Waited q earlier → msg.expiration = "" → Stays q.dlq msg

theorem Stays.main_iff (hq : q ∈ topologyQueues) :
    Stays q.name msg ↔ Waited q msg.deaths ∧ msg.expiration = "" := by
  constructor
  · generalize hname : q.name = name
    rintro (⟨hp, hwaited, hexpiration⟩ | ⟨hp, hretry, -⟩ | ⟨hp, -, -, -⟩)
    · obtain rfl := (queue_names q hq _ hp).1 hname
      exact ⟨hwaited, hexpiration⟩
    · exact absurd (hname ▸ hretry) (queue_names q hq _ hp).2.2.2.1
    · exact absurd hname (queue_names q hq _ hp).2.2.1
  · exact fun h => .main hq h.1 h.2

theorem Stays.dead_source (hq : q ∈ topologyQueues) (h : Stays q.dlq msg) :
    ∃ earlier, msg.deaths = newDeath q.name "rejected" 1 :: earlier ∧ Waited q earlier := by
  generalize hname : q.dlq = name at h
  rcases h with (⟨hp, -, -⟩ | ⟨hp, hretry, -⟩ | ⟨hp, hdeaths, hwaited, -⟩)
  · exact absurd hname.symm (queue_names _ hp q hq).2.2.1
  · exact absurd (hname ▸ hretry) (queue_names q hq _ hp).2.2.2.2
  · obtain rfl := (queue_names q hq _ hp).2.1 hname
    exact ⟨_, hdeaths, hwaited⟩

theorem Stays.received (h : Stays queue msg) (hreceived : Received msg back) :
    Stays queue back := by
  have hdeaths := hreceived.deaths_eq
  have hexpiration := hreceived.expiration
  cases h with
  | main hq hwaited hempty => exact .main hq (hdeaths ▸ hwaited) (hexpiration.trans hempty)
  | waiting hq hretry hwaited => exact .waiting hq hretry (hdeaths ▸ hwaited)
  | dead hq hfirst hwaited hempty =>
    exact .dead hq (hdeaths.trans hfirst) hwaited (hexpiration.trans hempty)

/-- The only messages that expire are those of a retry queue. -/
theorem Stays.expired {args : QueueArgs} {ms : Int} {target : String} {dead : Message}
    (h : Stays queue msg) (hargs : args ∈ queueArgs declarations queue)
    (hexpires : timeToLive args msg.expiration = some ms)
    (hdead : (target, dead) ∈ deadLetter queue "expired" msg) : Stays target dead := by
  cases h with
  | main hq hwaited hempty =>
    rw [mainArgs hq, List.mem_singleton] at hargs
    rw [hargs, hempty, timeToLive, toInt?_empty] at hexpires
    cases hexpires
  | waiting hq hretry hwaited =>
    rw [deadLetter_retry hq hretry, List.mem_singleton] at hdead
    cases hdead
    refine .main hq ?_ rfl
    rw [deaths_die]
    exact hwaited.expire hretry
  | dead hq hfirst hwaited hempty =>
    rw [deadLetter_dlq hq] at hdead
    cases hdead

theorem Stays.rejected {target : String} {dead : Message} (h : Stays queue msg)
    (hworker : queue ∈ RabbitMQ.registrations true)
    (hdead : (target, dead) ∈ deadLetter queue "rejected" msg) : Stays target dead := by
  cases h with
  | main hq hwaited hempty =>
    rw [deadLetter_main hq, List.mem_singleton] at hdead
    cases hdead
    refine .dead hq ?_ hwaited rfl
    rw [deaths_die, hwaited.reject]
  | waiting hq hretry hwaited => exact absurd hworker (retry_not_registered _ hq _ hretry)
  | dead hq hfirst hwaited hempty =>
    rw [deadLetter_dlq hq] at hdead
    cases hdead

theorem retryRoute_mem (q : MainQueue) (delay : Int) :
    (retryRoute q.name delay).1 ∈ retryQueues q := by
  unfold retryRoute
  cases hfind : retryTiers.find? (delay ≤ ·) with
  | some tier =>
    exact List.mem_append_left _ (List.mem_map_of_mem (List.mem_of_find?_eq_some hfind))
  | none => exact List.mem_append_right _ (List.mem_singleton_self _)

theorem Stays.retried {outcome : HandlerOutcome} {report : PublishOutcome} {copy : Publishing}
    {err : Option String} {target : String} (hq : q ∈ topologyQueues) (h : Stays q.name msg)
    (hpublish : .publish copy err ∈ processMessage cfg q.name msg.delivery fresh outcome report)
    (htarget : target ∈ routes declarations exchangeName copy.routingKey) :
    Stays target (msg.copy copy) := by
  have hcopy : ∃ failure, copy = retryPublishing (retryTask q.name msg.delivery fresh failure) := by
    have hcases := processMessage_cases cfg q.name msg.delivery fresh outcome report
    generalize processMessage cfg q.name msg.delivery fresh outcome report = effects
      at hcases hpublish
    cases hcases with
    | panicked | succeeded | exhausted => simp at hpublish
    | requeued failure | retried failure =>
      simp at hpublish
      exact ⟨failure, hpublish.1⟩
  obtain ⟨failure, rfl⟩ := hcopy
  obtain ⟨args, hleads, -⟩ := retryPublishing_leads hq
    (retryTask q.name msg.delivery fresh failure) rfl
  rw [hleads.routed, List.mem_singleton] at htarget
  rw [htarget]
  refine .waiting hq (retryRoute_mem q _) ?_
  rw [deaths_copy]
  exact ((Stays.main_iff hq).mp h).1

/-- In every run, a message in a queue has died in the retry queues of one main queue only, and,
when it is a dead letter, last of all in that main queue, of a rejection. -/
theorem arrives_stays (h : Arrives cfg queue msg) : Stays queue msg := by
  induction h with
  | published body hq htarget =>
    rw [back_bound hq, List.mem_singleton] at htarget
    rw [htarget]
    exact .main hq (.nil _) rfl
  | received _ hreceived ih => exact ih.received hreceived
  | retried hq _ hpublish htarget ih => exact ih.retried hq hpublish htarget
  | expired _ hargs hexpires hdead ih => exact ih.expired hargs hexpires hdead
  | rejected hworker _ _ hdead ih => exact ih.rejected hworker hdead

/-- A retry copy comes back to the main queue. -/
theorem Arrives.comes_back {outcome : HandlerOutcome} {report : PublishOutcome}
    {failure : HandlerError} {err : Option String} (hq : q ∈ topologyQueues)
    (h : Arrives cfg q.name msg)
    (hpublish : .publish (retryPublishing (retryTask q.name msg.delivery fresh failure)) err ∈
      processMessage cfg q.name msg.delivery fresh outcome report) :
    ∃ queue ∈ retryQueues q, Arrives cfg q.name
      ((msg.copy (retryPublishing (retryTask q.name msg.delivery fresh failure))).die queue
        "expired") := by
  obtain ⟨args, hleads, hheld⟩ := retryPublishing_leads hq
    (retryTask q.name msg.delivery fresh failure) rfl
  obtain ⟨ms, hleaves, -⟩ := hheld.leaves
  have hretry : (retryPublishing (retryTask q.name msg.delivery fresh failure)).routingKey ∈
      retryQueues q := retryRoute_mem q _
  have hwaiting := h.retried hq hpublish (hleads.routed ▸ List.mem_singleton_self _)
  refine ⟨_, hretry, hwaiting.expired (hleads.declared ▸ List.mem_singleton_self _) hleaves ?_⟩
  rw [deadLetter_retry hq hretry]
  exact List.mem_singleton_self _

/-! ### The source of a dead letter found -/

theorem header_of_deaths {first : Item} (hdeaths : msg.deaths = first :: deaths) :
    msg.header xDeath = some (.array (first :: deaths)) := by
  unfold Message.deaths at hdeaths
  split at hdeaths
  · rename_i hheader
    rw [hheader, hdeaths]
  · cases hdeaths

/-- What the handler of the dead letters finds. -/
theorem dlqSourceQueue_arrived (hq : q ∈ topologyQueues) (h : Arrives cfg q.dlq msg)
    (fresh : String) : dlqSourceQueue (msg.handled fresh) = q.name := by
  obtain ⟨earlier, hdeaths, -⟩ := (arrives_stays h).dead_source hq
  rw [dlqSourceQueue, handled_xDeath, header_of_deaths hdeaths]
  rfl

/-! ### The reports of dead letters -/

/-- An entry as `FailedFinal` has it. -/
def Item.noted : Item → FailedFinal.Death
  | .table death => ⟨(string? (death "reason")).getD "", string? (death "queue")⟩
  | .value _ => ⟨"", none⟩

def Headers.noted (headers : Headers) : Option (List FailedFinal.Death) :=
  match headers xDeath with
  | some (.array deaths) => some (deaths.map Item.noted)
  | _ => none

/-- The entry is a rejection from a queue. -/
def named (death : FailedFinal.Death) : Bool := death.reason = "rejected" ∧ death.queue.isSome

theorem rejectedQueue_noted (item : Item) :
    rejectedQueue item = if named item.noted then item.noted.queue else none := by
  cases item with
  | value v => rfl
  | table death =>
    rw [rejectedQueue]
    cases hreason : string? (death "reason") with
    | none => simp [named, Item.noted, hreason]
    | some reason =>
      cases hqueue : string? (death "queue") with
      | none => simp [named, Item.noted, hreason, hqueue]
      | some queueName => simp [named, Item.noted, hreason, hqueue]

theorem findSome?_rejectedQueue (deaths : List Item) :
    deaths.findSome? rejectedQueue = ((deaths.map Item.noted).find? named).bind (·.queue) := by
  induction deaths with
  | nil => rfl
  | cons item deaths ih =>
    rw [List.findSome?_cons, List.map_cons, rejectedQueue_noted]
    cases hnamed : named item.noted with
    | false =>
      rw [List.find?_cons_of_neg (by simp [hnamed])]
      exact ih
    | true =>
      obtain ⟨queueName, hname⟩ := Option.isSome_iff_exists.mp (of_decide_eq_true hnamed).2
      rw [List.find?_cons_of_pos hnamed, if_pos rfl, hname]
      exact hname.symm

theorem source_named {noted : List FailedFinal.Death} {death : FailedFinal.Death}
    (hfind : noted.find? named = some death) :
    FailedFinal.dlqSourceQueue (some noted) = death.queue.getD "" := by
  unfold named at hfind
  rw [FailedFinal.dlqSourceQueue.eq_def]
  dsimp only
  rw [hfind]

theorem source_unnamed {noted : List FailedFinal.Death} (hfind : noted.find? named = none) :
    FailedFinal.dlqSourceQueue (some noted) = (noted.head?.bind (·.queue)).getD "" := by
  unfold named at hfind
  rw [FailedFinal.dlqSourceQueue.eq_def]
  dsimp only
  rw [hfind]
  cases noted with
  | nil => rfl
  | cons death noted => rfl

theorem firstQueue_noted (deaths : List Item) :
    firstQueue deaths = (deaths.map Item.noted).head?.bind (·.queue) := by
  cases deaths with
  | nil => rfl
  | cons item deaths => cases item <;> rfl

/-- The reports find the same queue. -/
theorem dlqSourceQueue_noted (headers : Headers) :
    dlqSourceQueue headers = FailedFinal.dlqSourceQueue headers.noted := by
  unfold dlqSourceQueue Headers.noted
  split
  · rename_i deaths hheader
    rw [findSome?_rejectedQueue, firstQueue_noted]
    cases hfind : (deaths.map Item.noted).find? named with
    | none =>
      rw [source_unnamed hfind]
      rfl
    | some death =>
      have hnamed : named death = true := List.find?_some hfind
      obtain ⟨queueName, hname⟩ := Option.isSome_iff_exists.mp (of_decide_eq_true hnamed).2
      rw [source_named hfind, Option.bind_some, hname]
      rfl
  · rfl

/-- A dead letter of an outgoing job has the deaths that the reports assume. -/
theorem noted_arrived (h : Arrives cfg dlqOutgoingMessages msg) (fresh : String) :
    ∃ earlier, (msg.handled fresh).noted = FailedFinal.rejectedDeaths earlier := by
  have hq : (⟨queueOutgoingMessages, routingKeyOutgoingMsg, dlqOutgoingMessages⟩ : MainQueue) ∈
      topologyQueues := by simp [topologyQueues]
  obtain ⟨earlier, hdeaths, -⟩ := (arrives_stays h).dead_source hq
  refine ⟨earlier.map Item.noted, ?_⟩
  rw [Headers.noted, handled_xDeath, header_of_deaths hdeaths]
  rfl

/-- A message that a worker rejects goes from its main queue to the dead letters of that queue.
Whatever retries it has been through, their handler finds the main queue. -/
theorem dlq_source_queue (cfg : Config) (q : MainQueue) (hq : q ∈ topologyQueues) (msg : Message)
    (fresh : String) (outcome : HandlerOutcome) (report : PublishOutcome)
    (harrives : Arrives cfg q.name msg)
    (hrejected : .dispose (.nack false) ∈
      processMessage cfg q.name msg.delivery fresh outcome report) :
    ∃ dead, deadLetter q.name "rejected" msg = [(q.dlq, dead)] ∧
      ∀ received, Received dead received → ∀ fresh,
        dlqSourceQueue (received.handled fresh) = q.name := by
  have hworker : ∀ q ∈ topologyQueues, q.name ∈ RabbitMQ.registrations true := by decide +kernel
  have hdead := deadLetter_main hq "rejected" msg
  refine ⟨_, hdead, ?_⟩
  intro received hreceived fresh
  have hletter := harrives.rejected (hworker q hq) hrejected (hdead ▸ List.mem_singleton_self _)
  exact dlqSourceQueue_arrived hq (hletter.received hreceived) fresh

def outgoing : MainQueue := ⟨queueOutgoingMessages, routingKeyOutgoingMsg, dlqOutgoingMessages⟩

/-- A job that is rate limited for ninety seconds, and then makes the handler panic. -/
theorem dlq_source_queue_limited :
    ∃ msg, Arrives {} outgoing.name msg ∧ msg.deaths ≠ [] ∧
      ∃ dead, deadLetter outgoing.name "rejected" msg = [(outgoing.dlq, dead)] ∧
        ∀ received, Received dead received → ∀ fresh,
          dlqSourceQueue (received.handled fresh) = outgoing.name := by
  have hq : outgoing ∈ topologyQueues := by simp [topologyQueues, outgoing]
  have hfirst : Arrives {} outgoing.name ⟨none, [], ""⟩ :=
    .published [] hq (back_bound hq ▸ List.mem_singleton_self _)
  have hlimited : .publish (retryPublishing (retryTask outgoing.name
      (Message.delivery ⟨none, [], ""⟩) "trace"
      (.rateLimit "rate limit exceeded" (90 * Duration.second)))) none ∈
      processMessage {} outgoing.name (Message.delivery ⟨none, [], ""⟩) "trace"
        (.returned (some (.rateLimit "rate limit exceeded" (90 * Duration.second)))) {} :=
    List.mem_cons_of_mem _ List.mem_cons_self
  obtain ⟨queue, -, hback⟩ := hfirst.comes_back hq hlimited
  refine ⟨_, hback, ?_, dlq_source_queue {} outgoing hq _ "trace" (.panicked "nil map") {} hback
    (List.mem_cons_of_mem _ List.mem_cons_self)⟩
  rw [deaths_die]
  exact List.cons_ne_nil _ _

end WhatsappGateway.DeadLetters
