import WhatsappGateway.Queue.OutgoingOnce
import WhatsappGateway.Queue.WorkerConservation

/-!
The end of an outgoing job. A worker hands the job to `Handle`, the pool retries
it or dead-letters it by what came of that, and the handler of the dead letters
reports those. Both handlers send `message.failed`; neither knows what the other
has sent, nor whether the pool will try again.

One copy of the job is under way. The broker has a retry copy exactly if its
publish is reported as good.
-/

namespace WhatsappGateway.FailedFinal

open Lib Queue Outgoing WorkerPool

/-- What RabbitMQ notes when it dead-letters a message. -/
structure Death where
  reason : String
  queue : Option String
deriving DecidableEq, Repr

/-- The queue a message was dead-lettered from: that of its first rejection, or
else that of its first death. -/
def dlqSourceQueue : Option (List Death) → String
  | none => ""
  | some deaths =>
    match deaths.find? fun death => death.reason = "rejected" ∧ death.queue.isSome with
    | some death => death.queue.getD ""
    | none =>
      match deaths with
      | [] => ""
      | death :: _ => death.queue.getD ""

/-- `DLQHandler.Handle` on a dead letter that unmarshals as a job: what it asks of
the webhook sender. Other queues carry no jobs. -/
def dlqHandle (deaths : Option (List Death)) : List Outgoing.Effect :=
  if dlqSourceQueue deaths = queueOutgoingMessages then
    [.statusWebhook "message.failed" "" "message dead-lettered after exhausting retries"]
  else []

/-- The deaths of a message that a worker has rejected; it may have expired in
retry queues before. -/
def rejectedDeaths (earlier : List Death) : Option (List Death) :=
  some (⟨"rejected", some queueOutgoingMessages⟩ :: earlier)

theorem dlqHandle_rejected (earlier : List Death) :
    dlqHandle (rejectedDeaths earlier) =
      [.statusWebhook "message.failed" "" "message dead-lettered after exhausting retries"] := by
  rw [dlqHandle, if_pos]
  simp [dlqSourceQueue, rejectedDeaths]

/-- `Handle` as a whole: steps from a point on, each at its own time. -/
def handleAll (decodeString : DecodeString) (job : OutgoingMessageJob) :
    Option DedupCache → Phase → List (Int × Work) →
      Option (Option DedupCache × List Outgoing.Effect × Phase)
  | dedup, phase, [] => some (dedup, [], phase)
  | dedup, phase, (now, w) :: works =>
    match handle decodeString job now dedup phase w with
    | none => none
    | some (dedup, effects, phase) =>
      match handleAll decodeString job dedup phase works with
      | none => none
      | some (dedup, more, phase) => some (dedup, effects ++ more, phase)

/-- What the pool gets of a `Handle` that has reached a point: its error once it
has returned, or the panic that has stopped it before that. -/
def handlerOutcome : Phase → Option String → Option HandlerOutcome
  | .done .ok, none => some (.returned none)
  | .done (.rateLimited retryAfter), none =>
    some (.returned (some (.rateLimit "rate limit exceeded" retryAfter)))
  | .done (.failed err), none => some (.returned (some (.plain err)))
  | .done _, some _ => none
  | _, none => none
  | _, some value => some (.panicked value)

/-- The broker's copies, the cache, and what was done about the job, each with
the retry count of the copy it was done for. -/
structure State where
  broker : Broker
  dedup : Option DedupCache
  log : List (Int × Outgoing.Effect)

inductive Action where
  /-- a worker gets the `k`th copy; `Handle` takes these steps, and panics then
  if there is a value for it -/
  | attempt (k : Nat) (fresh : String) (works : List (Int × Work)) (panic : Option String)
      (report : PublishOutcome)
  /-- the `k`th waiting copy expires, and comes back with these headers -/
  | expire (k : Nat) (headers : Table)
  /-- the handler of the dead letters gets the `k`th of them -/
  | deadLetter (k : Nat) (earlier : List Death)

def Effect.isWebhook : Outgoing.Effect → Bool
  | .statusWebhook _ _ _ => true
  | _ => false

/-- The status webhooks are sent only if they are enabled. -/
def sent (webhookStatusEventsEnabled : Bool) (effects : List Outgoing.Effect) :
    List Outgoing.Effect :=
  effects.filter fun effect => webhookStatusEventsEnabled || !Effect.isWebhook effect

/-- Note the effects for a copy. -/
def note (msg : Delivery) (effects : List Outgoing.Effect) : List (Int × Outgoing.Effect) :=
  effects.map fun effect => (getRetryCount msg.headers, effect)

def step (cfg : Config) (webhookStatusEventsEnabled : Bool) (decodeString : DecodeString)
    (job : OutgoingMessageJob) (s : State) : Action → Option State
  | .attempt k fresh works panic report =>
    match s.broker.main[k]?, handleAll decodeString job s.dedup .delivered works with
    | some msg, some (dedup, effects, phase) =>
      match handlerOutcome phase panic with
      | none => none
      | some outcome =>
        let accepted := (retryError cfg report).isNone
        some {
          broker := Broker.settle msg outcome accepted
            (processMessage cfg queueOutgoingMessages msg fresh outcome report)
            { s.broker with main := s.broker.main.eraseIdx k }
          dedup := dedup
          log := s.log ++ note msg (sent webhookStatusEventsEnabled effects) }
    | _, _ => none
  | .expire k headers =>
    match s.broker.waiting[k]? with
    | none => none
    | some msg => some { s with broker := { s.broker with
        main := s.broker.main ++ [⟨some headers, msg.body⟩]
        waiting := s.broker.waiting.eraseIdx k } }
  | .deadLetter k earlier =>
    match s.broker.deadLettered[k]? with
    | none => none
    | some msg => some { s with
        broker := { s.broker with deadLettered := s.broker.deadLettered.eraseIdx k }
        log := s.log ++
          note msg (sent webhookStatusEventsEnabled (dlqHandle (rejectedDeaths earlier))) }

/-- The job has just been published. -/
def init (first : Delivery) (dedup : Option DedupCache) : State where
  broker := firstPublished first
  dedup := dedup
  log := []

/-- The event `message.failed`. -/
def isFailed : Outgoing.Effect → Bool
  | .statusWebhook event _ _ => event = "message.failed"
  | _ => false

/-- What says that the job is not at its end, or has ended well. -/
def isRevival : Outgoing.Effect → Bool
  | .statusWebhook event _ _ => event = "message.sent"
  | .updateStatus status _ _ => status = "processing" || status = "completed"
  | _ => false

/-- The event is sent at most once, for a copy with no retry left, and nothing
revives the job after it. -/
structure FailedIsFinal (cfg : Config) (log : List (Int × Outgoing.Effect)) : Prop where
  once : (log.countP fun entry => isFailed entry.2) ≤ 1
  exhausted : ∀ entry ∈ log, isFailed entry.2 = true → cfg.queueMaxRetries ≤ entry.1
  last : ∀ before entry after, log = before ++ entry :: after → isFailed entry.2 = true →
    ∀ later ∈ after, isRevival later.2 = false

/-- With status webhooks on, only the last attempt ends in a failure report, and
the handler of the dead letters gets only copies which have no retry left and
whose last attempt has not reported the failure itself. -/
def ReportsOnce (cfg : Config) (webhookStatusEventsEnabled : Bool) (s : State) : Action → Prop
  | .attempt k _ works _ _ => webhookStatusEventsEnabled = true →
      Work.notifyFailed ∈ works.map Prod.snd → ∀ msg, s.broker.main[k]? = some msg →
        cfg.queueMaxRetries ≤ getRetryCount msg.headers
  | .deadLetter k _ => webhookStatusEventsEnabled = true →
      (∀ msg, s.broker.deadLettered[k]? = some msg →
        cfg.queueMaxRetries ≤ getRetryCount msg.headers) ∧
      ∀ entry ∈ s.log, isFailed entry.2 = false
  | .expire _ _ => True

/-! ### What one attempt reports -/

/-- No failure is reported among the effects. -/
def Quiet (effects : List Outgoing.Effect) : Prop := ∀ effect ∈ effects, isFailed effect = false

/-- A failure is reported among the effects, and that as the last of them. -/
def EndsFailed (effects : List Outgoing.Effect) : Prop :=
  ∃ before text, effects = before ++ [.statusWebhook "message.failed" "" text] ∧ Quiet before

theorem EndsFailed.prepend {effects more : List Outgoing.Effect} (h : EndsFailed more)
    (hquiet : Quiet effects) : EndsFailed (effects ++ more) := by
  obtain ⟨before, text, rfl, hbefore⟩ := h
  refine ⟨effects ++ before, text, (List.append_assoc ..).symm, fun effect hmem => ?_⟩
  rcases List.mem_append.mp hmem with hold | hnew
  · exact hquiet effect hold
  · exact hbefore effect hnew

theorem Quiet.append {effects more : List Outgoing.Effect} (h : Quiet effects)
    (hmore : Quiet more) : Quiet (effects ++ more) := by
  intro effect hmem
  rcases List.mem_append.mp hmem with hold | hnew
  · exact h effect hold
  · exact hmore effect hnew

section Attempt

variable {decodeString : DecodeString} {job : OutgoingMessageJob}
  {dedup dedup' : Option DedupCache} {phase phase' : Phase} {effects : List Outgoing.Effect}

/-- One step of `Handle` reports the failure, and ends it, or reports none. -/
theorem worked_reports {now : Int} {w : Work}
    (h : Worked decodeString job now dedup phase w dedup' effects phase') :
    (w ≠ .notifyFailed ∧ Quiet effects) ∨
      (w = .notifyFailed ∧ EndsFailed effects ∧ ∃ err, phase' = .done (.failed err)) := by
  cases h with
  | duplicate | fresh | paced | stopped | undecodable | marked =>
    exact .inl ⟨by simp, by simp [Quiet]⟩
  | updateProcessing | refused | sent | updateCompleted | notifySent | updateFailed =>
    exact .inl ⟨by simp, by simp [Quiet, isFailed]⟩
  | @notifyFailed err =>
    exact .inr ⟨rfl, ⟨[], failureText err, rfl, by simp [Quiet]⟩, err, rfl⟩

/-- `Handle` does nothing more once it is done. -/
theorem handleAll_done {outcome : Outcome} {works : List (Int × Work)}
    (h : handleAll decodeString job dedup (.done outcome) works = some (dedup', effects, phase)) :
    works = [] ∧ effects = [] ∧ phase = .done outcome := by
  cases works with
  | nil =>
    cases h
    exact ⟨rfl, rfl, rfl⟩
  | cons work works =>
    obtain ⟨now, w⟩ := work
    simp only [handleAll, handle] at h
    cases h

/-- By induction on the steps: a `Handle` reports the failure with its last step,
and then returns an error that is not one of the pacer, or reports none. -/
theorem handleAll_reports {works : List (Int × Work)}
    (h : handleAll decodeString job dedup phase works = some (dedup', effects, phase')) :
    (Work.notifyFailed ∉ works.map Prod.snd ∧ Quiet effects) ∨
      (Work.notifyFailed ∈ works.map Prod.snd ∧ EndsFailed effects ∧
        ∃ err, phase' = .done (.failed err)) := by
  induction works generalizing dedup phase effects with
  | nil =>
    cases h
    exact .inl ⟨by simp, by simp [Quiet]⟩
  | cons work works ih =>
    obtain ⟨now, w⟩ := work
    simp only [handleAll] at h
    split at h
    · cases h
    next dedup₁ effects₁ phase₁ hhandle =>
    split at h
    · cases h
    next more _ hrest =>
    cases h
    rcases worked_reports (handle_worked hhandle) with ⟨hw, hquiet⟩ | ⟨rfl, hends, err, rfl⟩
    · rcases ih hrest with ⟨hnone, hmore⟩ | ⟨hsome, hmore, herr⟩
      · exact .inl ⟨by simpa [Ne.symm hw] using hnone, hquiet.append hmore⟩
      · exact .inr ⟨by simp [List.map_cons, hsome], hmore.prepend hquiet, herr⟩
    · obtain ⟨rfl, rfl, rfl⟩ := handleAll_done hrest
      exact .inr ⟨by simp, by simpa using hends, err, rfl⟩

end Attempt

/-! ### What the log says -/

variable {cfg : Config} {log : List (Int × Outgoing.Effect)}

/-- Nothing in the log reports a failure. -/
def QuietLog (log : List (Int × Outgoing.Effect)) : Prop :=
  ∀ entry ∈ log, isFailed entry.2 = false

theorem QuietLog.note {msg : Delivery} {effects : List Outgoing.Effect} (h : QuietLog log)
    (hquiet : Quiet effects) : QuietLog (log ++ note msg effects) := by
  intro entry hmem
  rcases List.mem_append.mp hmem with hold | hnew
  · exact h entry hold
  · obtain ⟨effect, heffect, rfl⟩ := List.mem_map.mp hnew
    exact hquiet effect heffect

theorem QuietLog.count (h : QuietLog log) : (log.countP fun entry => isFailed entry.2) = 0 := by
  apply List.countP_eq_zero.mpr
  intro entry hmem
  rw [h entry hmem]
  simp

theorem FailedIsFinal.of_quiet (h : QuietLog log) : FailedIsFinal cfg log where
  once := by
    rw [h.count]
    omega
  exhausted := by
    intro entry hmem hfailed
    rw [h entry hmem] at hfailed
    cases hfailed
  last := by
    intro before entry after hlog hfailed
    have hmem : entry ∈ log := by
      rw [hlog]
      simp
    rw [h entry hmem] at hfailed
    cases hfailed

/-- The first report of a failure may stand at the end. -/
theorem FailedIsFinal.of_last {count : Int} {effect : Outgoing.Effect} (h : QuietLog log)
    (hcount : cfg.queueMaxRetries ≤ count) : FailedIsFinal cfg (log ++ [(count, effect)]) where
  once := by
    rw [List.countP_append, h.count]
    have hone := List.countP_le_length (p := fun entry : Int × Outgoing.Effect => isFailed entry.2)
      (l := [(count, effect)])
    simp only [List.length_singleton] at hone
    omega
  exhausted := by
    intro entry hmem hfailed
    rcases List.mem_append.mp hmem with hold | hnew
    · rw [h entry hold] at hfailed
      cases hfailed
    · rwa [List.mem_singleton.mp hnew]
  last := by
    intro before entry after hlog hfailed
    -- the entry is the last one: nothing before it reports a failure
    rcases List.eq_nil_or_concat after with rfl | ⟨after, final, rfl⟩
    · simp
    · have hbody : log = before ++ entry :: after := by
        have hsplit : log ++ [(count, effect)] = (before ++ entry :: after) ++ [final] := by
          rw [hlog]
          simp
        exact (List.append_inj' hsplit rfl).1
      have hmem : entry ∈ log := by
        rw [hbody]
        simp
      rw [h entry hmem] at hfailed
      cases hfailed

/-- What holds of a log holds of what it began with. -/
theorem FailedIsFinal.of_append {more : List (Int × Outgoing.Effect)}
    (h : FailedIsFinal cfg (log ++ more)) : FailedIsFinal cfg log where
  once := by
    have honce := h.once
    rw [List.countP_append] at honce
    omega
  exhausted := fun entry hmem => h.exhausted entry (List.mem_append_left _ hmem)
  last := by
    intro before entry after hlog hfailed later hlater
    apply h.last before entry (after ++ more) _ hfailed later (List.mem_append_left _ hlater)
    rw [hlog, List.append_assoc, List.cons_append]

/-- A failure that is reported last has been reported before by nobody. -/
theorem FailedIsFinal.quiet_before {entry : Int × Outgoing.Effect}
    (h : FailedIsFinal cfg (log ++ [entry])) (hfailed : isFailed entry.2 = true) :
    QuietLog log := by
  have honce := h.once
  rw [List.countP_append, List.countP_singleton, if_pos hfailed] at honce
  intro other hmem
  have hzero : (log.countP fun entry => isFailed entry.2) = 0 := by omega
  simpa using List.countP_eq_zero.mp hzero other hmem

/-! ### What the pool does with the copy -/

/-- The broker holds nothing but, at most, this copy. -/
def copies (b : Broker) : Nat := b.main.length + b.waiting.length + b.deadLettered.length

/-- Whatever comes of the attempt, one copy is left at most. -/
theorem copies_settle {queue fresh : String} {msg : Delivery} {outcome : HandlerOutcome}
    {report : PublishOutcome} {b : Broker} (hnone : copies b = 0) :
    copies (Broker.settle msg outcome (retryError cfg report).isNone
      (processMessage cfg queue msg fresh outcome report) b) ≤ 1 := by
  obtain ⟨hmain, hwaiting, hdead⟩ :
      b.main = [] ∧ b.waiting = [] ∧ b.deadLettered = [] := by
    simp only [copies] at hnone
    refine ⟨List.length_eq_zero_iff.mp ?_, List.length_eq_zero_iff.mp ?_,
      List.length_eq_zero_iff.mp ?_⟩ <;> omega
  have hcases := processMessage_cases cfg queue msg fresh outcome report
  generalize processMessage cfg queue msg fresh outcome report = effects at hcases
  cases hcases with
  | panicked | succeeded | exhausted =>
    simp [Broker.settle, Broker.apply, copies, hmain, hwaiting, hdead]
  | requeued _ _ _ herror | retried _ _ herror =>
    simp [Broker.settle, Broker.apply, copies, hmain, hwaiting, hdead, herror]

/-- A failed attempt with no retry left leaves nothing but a dead letter. -/
theorem settle_exhausted {queue fresh err : String} {msg : Delivery} {report : PublishOutcome}
    {accepted : Bool} {b : Broker} (hcount : cfg.queueMaxRetries ≤ getRetryCount msg.headers) :
    (Broker.settle msg (.returned (some (.plain err))) accepted
        (processMessage cfg queue msg fresh (.returned (some (.plain err))) report) b).main =
      b.main ∧
    (Broker.settle msg (.returned (some (.plain err))) accepted
        (processMessage cfg queue msg fresh (.returned (some (.plain err))) report) b).waiting =
      b.waiting := by
  simp only [processMessage, ge_iff_le, hcount, if_true]
  exact ⟨rfl, rfl⟩

section Steps

variable {enabled : Bool} {decodeString : DecodeString} {job : OutgoingMessageJob} {s t : State}

/-- There is one copy at most, and none to be handled once a failure is reported. -/
structure Tracked (cfg : Config) (s : State) : Prop where
  single : copies s.broker ≤ 1
  final : FailedIsFinal cfg s.log
  ended : ¬ QuietLog s.log → s.broker.main = [] ∧ s.broker.waiting = []

theorem step_attempt {k : Nat} {fresh : String} {works : List (Int × Work)}
    {panic : Option String} {report : PublishOutcome}
    (h : step cfg enabled decodeString job s (.attempt k fresh works panic report) = some t) :
    ∃ msg dedup effects phase outcome, s.broker.main[k]? = some msg ∧
      handleAll decodeString job s.dedup .delivered works = some (dedup, effects, phase) ∧
      handlerOutcome phase panic = some outcome ∧
      t = {
        broker := Broker.settle msg outcome (retryError cfg report).isNone
          (processMessage cfg queueOutgoingMessages msg fresh outcome report)
          { s.broker with main := s.broker.main.eraseIdx k }
        dedup := dedup
        log := s.log ++ note msg (sent enabled effects) } := by
  simp only [step] at h
  split at h
  · next msg dedup effects phase hmsg hhandle =>
    split at h
    · cases h
    · next outcome houtcome =>
      cases h
      exact ⟨msg, dedup, effects, phase, outcome, hmsg, hhandle, houtcome, rfl⟩
  · cases h

theorem step_expire {k : Nat} {headers : Table}
    (h : step cfg enabled decodeString job s (.expire k headers) = some t) :
    ∃ msg, s.broker.waiting[k]? = some msg ∧ t = { s with broker := { s.broker with
      main := s.broker.main ++ [⟨some headers, msg.body⟩]
      waiting := s.broker.waiting.eraseIdx k } } := by
  simp only [step] at h
  split at h
  · cases h
  · next msg hmsg =>
    cases h
    exact ⟨msg, hmsg, rfl⟩

theorem step_deadLetter {k : Nat} {earlier : List Death}
    (h : step cfg enabled decodeString job s (.deadLetter k earlier) = some t) :
    ∃ msg, s.broker.deadLettered[k]? = some msg ∧ t = { s with
      broker := { s.broker with deadLettered := s.broker.deadLettered.eraseIdx k }
      log := s.log ++ note msg (sent enabled (dlqHandle (rejectedDeaths earlier))) } := by
  simp only [step] at h
  split at h
  · cases h
  · next msg hmsg =>
    cases h
    exact ⟨msg, hmsg, rfl⟩

theorem sent_enabled (effects : List Outgoing.Effect) : sent true effects = effects := by
  simp [sent]

/-- Without status webhooks nothing is reported. -/
theorem sent_disabled_quiet (effects : List Outgoing.Effect) : Quiet (sent false effects) := by
  intro effect hmem
  obtain ⟨-, hkept⟩ := List.mem_filter.mp hmem
  cases effect with
  | statusWebhook event messageID errorMsg => cases hkept
  | updateStatus | call => rfl

theorem Quiet.sent {effects : List Outgoing.Effect} (h : Quiet effects) (enabled : Bool) :
    Quiet (sent enabled effects) := fun effect hmem => h effect (List.mem_filter.mp hmem).1

/-- The note of a failure ends the log. -/
theorem note_failed (msg : Delivery) {effects : List Outgoing.Effect} (hlog : QuietLog log)
    (hends : EndsFailed effects) : ∃ before entry, QuietLog before ∧ isFailed entry.2 = true ∧
      entry.1 = getRetryCount msg.headers ∧ log ++ note msg effects = before ++ [entry] := by
  obtain ⟨before, text, rfl, hbefore⟩ := hends
  refine ⟨log ++ note msg before,
    (getRetryCount msg.headers, .statusWebhook "message.failed" "" text), hlog.note hbefore,
    by simp [isFailed], rfl, ?_⟩
  simp [note]

/-- The copy that is attempted is the only one, so no failure is reported yet. -/
theorem Tracked.quiet {k : Nat} {msg : Delivery} (hs : Tracked cfg s)
    (hmsg : s.broker.main[k]? = some msg) : QuietLog s.log := by
  by_contra hfailed
  obtain ⟨hk, -⟩ := List.getElem?_eq_some_iff.mp hmsg
  rw [(hs.ended hfailed).1] at hk
  cases hk

theorem Tracked.erase {k : Nat} {msg : Delivery} (hs : Tracked cfg s)
    (hmsg : s.broker.main[k]? = some msg) :
    s.broker.main.eraseIdx k = [] ∧ s.broker.waiting = [] ∧ s.broker.deadLettered = [] := by
  obtain ⟨hk, -⟩ := List.getElem?_eq_some_iff.mp hmsg
  have hsingle := hs.single
  simp only [copies] at hsingle
  refine ⟨List.length_eq_zero_iff.mp ?_, List.length_eq_zero_iff.mp ?_,
    List.length_eq_zero_iff.mp ?_⟩
  · rw [List.length_eraseIdx_of_lt hk]
    omega
  · omega
  · omega

theorem tracked_attempt {k : Nat} {fresh : String} {works : List (Int × Work)}
    {panic : Option String} {report : PublishOutcome} (hs : Tracked cfg s)
    (hguard : ReportsOnce cfg enabled s (.attempt k fresh works panic report))
    (h : step cfg enabled decodeString job s (.attempt k fresh works panic report) = some t) :
    Tracked cfg t := by
  obtain ⟨msg, dedup, effects, phase, outcome, hmsg, hhandle, houtcome, rfl⟩ := step_attempt h
  have hquiet := hs.quiet hmsg
  obtain ⟨hmain, hwaiting, hdead⟩ := hs.erase hmsg
  have hsettled := @copies_settle cfg queueOutgoingMessages fresh msg outcome report
    { s.broker with main := s.broker.main.eraseIdx k } (by simp [copies, hmain, hwaiting, hdead])
  have hsilent : Quiet (sent enabled effects) →
      QuietLog (s.log ++ note msg (sent enabled effects)) := fun h => hquiet.note h
  rcases handleAll_reports hhandle with ⟨-, hnone⟩ | ⟨hreports, hends, err, rfl⟩
  · have hlog := hsilent (hnone.sent enabled)
    exact ⟨hsettled, .of_quiet hlog, fun hfailed => absurd hlog hfailed⟩
  · cases enabled with
    | false =>
      have hlog := hsilent (sent_disabled_quiet effects)
      exact ⟨hsettled, .of_quiet hlog, fun hfailed => absurd hlog hfailed⟩
    | true =>
      -- the last attempt: its copy is a dead letter now
      have hcount := hguard rfl hreports msg hmsg
      rw [sent_enabled] at *
      obtain ⟨before, entry, hbefore, -, htag, hlog⟩ := note_failed msg hquiet hends
      cases panic with
      | some value => cases houtcome
      | none =>
        cases houtcome
        obtain ⟨hmainEnd, hwaitingEnd⟩ := @settle_exhausted cfg queueOutgoingMessages fresh err msg
          report (retryError cfg report).isNone
          { s.broker with main := s.broker.main.eraseIdx k } hcount
        refine ⟨hsettled, ?_, fun _ => ⟨hmainEnd.trans hmain, hwaitingEnd.trans hwaiting⟩⟩
        rw [hlog]
        exact .of_last hbefore (by rwa [htag])

theorem tracked_expire {k : Nat} {headers : Table} (hs : Tracked cfg s)
    (h : step cfg enabled decodeString job s (.expire k headers) = some t) : Tracked cfg t := by
  obtain ⟨msg, hmsg, rfl⟩ := step_expire h
  obtain ⟨hk, -⟩ := List.getElem?_eq_some_iff.mp hmsg
  have hsingle := hs.single
  simp only [copies] at hsingle
  refine ⟨?_, hs.final, fun hfailed => ?_⟩
  · simp only [copies, List.length_append, List.length_singleton, List.length_eraseIdx_of_lt hk]
    omega
  · rw [(hs.ended hfailed).2] at hk
    cases hk

theorem tracked_deadLetter {k : Nat} {earlier : List Death} (hs : Tracked cfg s)
    (hguard : ReportsOnce cfg enabled s (.deadLetter k earlier))
    (h : step cfg enabled decodeString job s (.deadLetter k earlier) = some t) :
    Tracked cfg t := by
  obtain ⟨msg, hmsg, rfl⟩ := step_deadLetter h
  obtain ⟨hk, -⟩ := List.getElem?_eq_some_iff.mp hmsg
  have hsingle := hs.single
  simp only [copies] at hsingle
  have hcopies : copies { s.broker with deadLettered := s.broker.deadLettered.eraseIdx k } ≤ 1 := by
    simp only [copies, List.length_eraseIdx_of_lt hk]
    omega
  have hmain : s.broker.main = [] := List.length_eq_zero_iff.mp (by omega)
  have hwaiting : s.broker.waiting = [] := List.length_eq_zero_iff.mp (by omega)
  refine ⟨hcopies, ?_, fun _ => ⟨hmain, hwaiting⟩⟩
  cases enabled with
  | false =>
    have hnone : sent false (dlqHandle (rejectedDeaths earlier)) = [] := by
      rw [dlqHandle_rejected]
      rfl
    simpa [hnone, note] using hs.final
  | true =>
    obtain ⟨hcount, hquiet⟩ := hguard rfl
    rw [sent_enabled, dlqHandle_rejected]
    exact .of_last hquiet (hcount msg hmsg)

theorem tracked_step {a : Action} (hs : Tracked cfg s) (hguard : ReportsOnce cfg enabled s a)
    (h : step cfg enabled decodeString job s a = some t) : Tracked cfg t := by
  cases a with
  | attempt k fresh works panic report => exact tracked_attempt hs hguard h
  | expire k headers => exact tracked_expire hs h
  | deadLetter k earlier => exact tracked_deadLetter hs hguard h

theorem tracked_init (cfg : Config) (first : Delivery) (dedup : Option DedupCache) :
    Tracked cfg (init first dedup) where
  single := by simp [copies, init, firstPublished]
  final := .of_quiet (by simp [QuietLog, init])
  ended := fun hfailed => absurd (by simp [QuietLog, init]) hfailed

/-! ### What breaks the condition is seen at once, and for ever -/

theorem step_log {a : Action} (h : step cfg enabled decodeString job s a = some t) :
    ∃ more, t.log = s.log ++ more := by
  cases a with
  | attempt k fresh works panic report =>
    obtain ⟨msg, dedup, effects, phase, outcome, -, -, -, rfl⟩ := step_attempt h
    exact ⟨_, rfl⟩
  | expire k headers =>
    obtain ⟨msg, -, rfl⟩ := step_expire h
    exact ⟨[], (List.append_nil _).symm⟩
  | deadLetter k earlier =>
    obtain ⟨msg, -, rfl⟩ := step_deadLetter h
    exact ⟨_, rfl⟩

/-- What is final at the end of a run was so all along. -/
theorem final_of_run {as : List Action} {guard : State → Action → Prop}
    (hrun : Run (step cfg enabled decodeString job) guard s as t)
    (hfinal : FailedIsFinal cfg t.log) : FailedIsFinal cfg s.log := by
  induction hrun with
  | nil => exact hfinal
  | cons _ hstep _ ih =>
    obtain ⟨more, hlog⟩ := step_log hstep
    have hnext := ih hfinal
    rw [hlog] at hnext
    exact hnext.of_append

theorem reports_of_final {a : Action} (h : step cfg enabled decodeString job s a = some t)
    (hfinal : FailedIsFinal cfg t.log) : ReportsOnce cfg enabled s a := by
  cases a with
  | attempt k fresh works panic report =>
    intro henabled hreports other hother
    subst henabled
    obtain ⟨msg, dedup, effects, phase, outcome, hmsg, hhandle, -, rfl⟩ := step_attempt h
    obtain rfl : msg = other := Option.some.inj (hmsg.symm.trans hother)
    rcases handleAll_reports hhandle with ⟨hnone, -⟩ | ⟨-, hends, -⟩
    · exact absurd hreports hnone
    · obtain ⟨before, text, rfl, -⟩ := hends
      have hmem : (getRetryCount msg.headers, Outgoing.Effect.statusWebhook "message.failed" ""
          text) ∈ s.log ++ note msg (sent true (before ++
            [.statusWebhook "message.failed" "" text])) := by
        simp [sent_enabled, note]
      exact hfinal.exhausted _ hmem (by simp [isFailed])
  | expire k headers => trivial
  | deadLetter k earlier =>
    intro henabled
    subst henabled
    obtain ⟨msg, hmsg, rfl⟩ := step_deadLetter h
    simp only [sent_enabled, dlqHandle_rejected, note, List.map_cons, List.map_nil] at hfinal
    refine ⟨fun other hother => ?_, hfinal.quiet_before (by simp [isFailed])⟩
    obtain rfl : msg = other := Option.some.inj (hmsg.symm.trans hother)
    exact hfinal.exhausted _ (List.mem_append_right _ List.mem_cons_self) (by simp [isFailed])

theorem run_reports {as : List Action} {guard : State → Action → Prop}
    (hrun : Run (step cfg enabled decodeString job) guard s as t)
    (hfinal : FailedIsFinal cfg t.log) :
    Run (step cfg enabled decodeString job) (ReportsOnce cfg enabled) s as t := by
  induction hrun with
  | nil => exact .nil _
  | cons _ hstep hrest ih =>
    exact .cons (reports_of_final hstep (final_of_run hrest hfinal)) hstep (ih hfinal)

end Steps

section Sample

def sampleJob : OutgoingMessageJob where
  jobID := "job-1"
  phoneNumber := "628111"
  type := "text"
  recipient := "628222@s.whatsapp.net"
  text := "hello"

/-- The Manager reports an error. -/
def failing (now : Int) : List (Int × Work) :=
  [.check, .wait .ok, .updateProcessing, .send "" (some "websocket not connected"),
    .updateFailed, .notifyFailed].map (now, ·)

def succeeding (now : Int) : List (Int × Work) :=
  [.check, .wait .ok, .updateProcessing, .send "wamid-1" none, .updateCompleted, .mark,
    .notifySent].map (now, ·)

/-- The first attempt fails and is retried, and the second one succeeds. -/
def failsOnce : List Action :=
  [.attempt 0 "trace-1" (failing 0) none {},
    .expire 0 (fun key => if key = retryCountKey then some (.int64 1) else none),
    .attempt 0 "trace-1" (succeeding 10) none {}]

/-- The sample's job as it was published, and the workers after a schedule. -/
def sampleFirst : Delivery := ⟨none, []⟩

def sampleStep : State → Action → Option State :=
  step {} true (fun _ => .ok []) sampleJob

def sampleEnd (as : List Action) : State := final sampleStep (init sampleFirst none) as

/-- The pacer limits every attempt: the job becomes a dead letter. -/
def pacedOut : List Action :=
  let limited (now : Int) : List (Int × Work) := [(now, .check), (now, .wait (.rateLimited 60))]
  let counted (n : Int) : Table := fun key => if key = retryCountKey then some (.int64 n) else none
  [.attempt 0 "trace-1" (limited 0) none {}, .expire 0 (counted 1),
    .attempt 0 "trace-1" (limited 60) none {}, .expire 0 (counted 2),
    .attempt 0 "trace-1" (limited 120) none {}, .expire 0 (counted 3),
    .attempt 0 "trace-1" (limited 180) none {}, .deadLetter 0 []]

example : (sampleEnd pacedOut).log = [(3, .statusWebhook "message.failed" ""
    "message dead-lettered after exhausting retries")] := by
  decide +kernel

end Sample

end WhatsappGateway.FailedFinal
