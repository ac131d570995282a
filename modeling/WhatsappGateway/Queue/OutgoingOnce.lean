import WhatsappGateway.Lib.Exclusion
import WhatsappGateway.Queue.OutgoingHandler

/-!
How often a job is sent. The check, the paced send and the mark are three
separate steps, so a delivery that makes its check while another is between its
check and its mark sends a second time. Nothing else does, within the TTL.
-/

namespace WhatsappGateway.Outgoing

open Lib Lib.Exclusion Queue

/-- Everything a step of `Handle` can do. -/
inductive Worked (decodeString : DecodeString) (job : OutgoingMessageJob) (now : Int)
    (dedup : Option DedupCache) :
    Phase → Work → Option DedupCache → List Effect → Phase → Prop where
  | duplicate : (isDuplicate now dedup queueOutgoingMessages job.jobID).1 = true →
      Worked decodeString job now dedup .delivered .check
        (isDuplicate now dedup queueOutgoingMessages job.jobID).2 [] (.done .ok)
  | fresh : (isDuplicate now dedup queueOutgoingMessages job.jobID).1 = false →
      Worked decodeString job now dedup .delivered .check
        (isDuplicate now dedup queueOutgoingMessages job.jobID).2 [] .fresh
  | paced : Worked decodeString job now dedup .fresh (.wait .ok) dedup [] .paced
  | stopped {answer} : answer ≠ .ok →
      Worked decodeString job now dedup .fresh (.wait answer) dedup [] (.done answer)
  | updateProcessing : Worked decodeString job now dedup .paced .updateProcessing dedup
      [.updateStatus "processing" "" ""] .processing
  | undecodable {returned answer err} : dispatch decodeString job = .error err →
      Worked decodeString job now dedup .processing (.send returned answer) dedup [] (.failing err)
  | refused {returned err call} : dispatch decodeString job = .ok call →
      Worked decodeString job now dedup .processing (.send returned (some err)) dedup
        [.call call (some err)] (.failing err)
  | sent {returned call} : dispatch decodeString job = .ok call →
      Worked decodeString job now dedup .processing (.send returned none) dedup
        [.call call none] (.sent (sentID job call returned))
  | updateCompleted {messageID} :
      Worked decodeString job now dedup (.sent messageID) .updateCompleted dedup
        [.updateStatus "completed" messageID ""] (.completed messageID)
  | marked {messageID} : Worked decodeString job now dedup (.completed messageID) .mark
      (markProcessed now dedup queueOutgoingMessages job.jobID) [] (.marked messageID)
  | notifySent {messageID} : Worked decodeString job now dedup (.marked messageID) .notifySent
      dedup [.statusWebhook "message.sent" messageID ""] (.done .ok)
  | updateFailed {err} : Worked decodeString job now dedup (.failing err) .updateFailed dedup
      [.updateStatus "failed" "" (failureText err)] (.failed err)
  | notifyFailed {err} : Worked decodeString job now dedup (.failed err) .notifyFailed dedup
      [.statusWebhook "message.failed" "" (failureText err)] (.done (.failed err))

theorem handle_worked {decodeString : DecodeString} {job : OutgoingMessageJob} {now : Int}
    {dedup dedup' : Option DedupCache} {phase phase' : Phase} {w : Work} {effects : List Effect}
    (h : handle decodeString job now dedup phase w = some (dedup', effects, phase')) :
    Worked decodeString job now dedup phase w dedup' effects phase' := by
  unfold handle at h
  split at h
  · cases hverdict : (isDuplicate now dedup queueOutgoingMessages job.jobID).1 with
    | true =>
      simp only [hverdict, if_true, Option.some.injEq, Prod.mk.injEq] at h
      obtain ⟨rfl, rfl, rfl⟩ := h
      exact .duplicate hverdict
    | false =>
      simp only [hverdict, Bool.false_eq_true, if_false, Option.some.injEq, Prod.mk.injEq] at h
      obtain ⟨rfl, rfl, rfl⟩ := h
      exact .fresh hverdict
  · next answer =>
    by_cases hanswer : answer = .ok
    · subst hanswer
      cases h
      exact .paced
    · simp only [hanswer, if_false, Option.some.injEq, Prod.mk.injEq] at h
      obtain ⟨rfl, rfl, rfl⟩ := h
      exact .stopped hanswer
  · cases h
    exact .updateProcessing
  · split at h
    · next hdispatch =>
      cases h
      exact .undecodable hdispatch
    next hdispatch =>
    split at h
    · cases h
      exact .refused hdispatch
    · cases h
      exact .sent hdispatch
  · cases h
    exact .updateCompleted
  · cases h
    exact .marked
  · cases h
    exact .notifySent
  · cases h
    exact .updateFailed
  · cases h
    exact .notifyFailed
  · cases h

/-- Everything a step of the workers can do. -/
inductive Stepped (decodeString : DecodeString) (job : OutgoingMessageJob) (s : State) :
    Action → State → Prop where
  | tick {d : Int} : 0 ≤ d → Stepped decodeString job s (.tick d) { s with now := s.now + d }
  | deliver {i} : s.deliveries i = none → Stepped decodeString job s (.deliver i)
      { s with deliveries := Function.update s.deliveries i (some .delivered) }
  | work {i w phase phase' dedup effects} : s.deliveries i = some phase →
      Worked decodeString job s.now s.dedup phase w dedup effects phase' →
      Stepped decodeString job s (.work i w)
        { s with
          dedup := dedup
          deliveries := Function.update s.deliveries i (some phase')
          log := s.log ++ effects.map fun effect => (i, effect) }
  | checkOther {scope id} : Stepped decodeString job s (.checkOther scope id)
      { s with dedup := (isDuplicate s.now s.dedup scope id).2 }
  | markOther {scope id} : Stepped decodeString job s (.markOther scope id)
      { s with dedup := markProcessed s.now s.dedup scope id }

theorem step_stepped {decodeString : DecodeString} {job : OutgoingMessageJob} {s t : State}
    {a : Action} (h : step decodeString job s a = some t) : Stepped decodeString job s a t := by
  unfold step at h
  split at h
  · split at h
    · next hd =>
      cases h
      exact .tick hd
    · cases h
  · split at h
    · next habsent =>
      cases h
      exact .deliver habsent
    · cases h
  · split at h
    · cases h
    next hphase =>
    split at h
    · cases h
    next hhandle =>
    cases h
    exact .work hphase (handle_worked hhandle)
  · cases h
    exact .checkOther
  · cases h
    exact .markOther

/-- A delivery between its check and its mark. -/
def Phase.between : Phase → Bool
  | .fresh => true
  | .paced => true
  | .processing => true
  | .sent _ => true
  | .completed _ => true
  | _ => false

/-- A delivery between its send and its mark. -/
def Phase.unmarked : Phase → Bool
  | .sent _ => true
  | .completed _ => true
  | _ => false

theorem Phase.between_of_unmarked {phase : Phase} (h : phase.unmarked = true) :
    phase.between = true := by
  cases phase with
  | sent _ => rfl
  | completed _ => rfl
  | _ => cases h

/-- The key under which the cache knows the job. -/
def jobKey (job : OutgoingMessageJob) : String := dedupKey queueOutgoingMessages job.jobID

/-- A delivery makes its check only with a cache and a job id, before the
deadline, and while no other is between its check and its mark. -/
def ChecksAlone (job : OutgoingMessageJob) (deadline : Int) (s : State) : Action → Prop
  | .work _ .check => s.dedup.isSome ∧ job.jobID ≠ "" ∧ s.now < deadline ∧
      ∀ j phase, s.deliveries j = some phase → phase.between = false
  | _ => True

/-- The sender is not marked yet, or nobody is between and the cache knows the
job until the deadline. -/
def Covered (job : OutgoingMessageJob) (start ttl : Int) (s : State) (i : Nat) : Prop :=
  (∃ phase, s.deliveries i = some phase ∧ phase.unmarked = true) ∨
    ((∀ j phase, s.deliveries j = some phase → phase.between = false) ∧
      (s.now < start + ttl → Holds s.dedup ttl (jobKey job) (start + ttl)))

/-- At most one delivery is between its check and its mark, and at most one has
ever sent. -/
structure Once (job : OutgoingMessageJob) (start ttl : Int) (s : State) : Prop where
  clock : start ≤ s.now
  lasts : Lasts s.dedup ttl
  enabled : ∀ i phase, s.deliveries i = some phase → phase.between = true →
    s.dedup.isSome ∧ job.jobID ≠ ""
  single : ∀ i j p q, s.deliveries i = some p → s.deliveries j = some q →
    p.between = true → q.between = true → i = j
  covered : sends s = [] ∨ ∃ i, sends s = [i] ∧ Covered job start ttl s i

section Once

variable {decodeString : DecodeString} {job : OutgoingMessageJob} {start ttl : Int}
  {s t : State} {a : Action} {i : Nat}

/-- Effects that are no successful call of the Manager. -/
def Quiet (effects : List Effect) : Prop := ∀ effect ∈ effects, ∀ call, effect ≠ .call call none

/-- The senders a list of log entries adds. -/
theorem sends_log (dedup : Option DedupCache) (deliveries : Nat → Option Phase)
    (effects : List Effect) :
    sends { s with
      dedup := dedup
      deliveries := deliveries
      log := s.log ++ effects.map fun effect => (i, effect) } =
      sends s ++ (effects.filterMap fun effect =>
        match effect with
        | .call _ none => some i
        | _ => none) := by
  simp only [sends, List.filterMap_append, List.filterMap_map]
  rfl

theorem sends_quiet {dedup : Option DedupCache} {deliveries : Nat → Option Phase}
    {effects : List Effect} (h : Quiet effects) :
    sends { s with
      dedup := dedup
      deliveries := deliveries
      log := s.log ++ effects.map fun effect => (i, effect) } = sends s := by
  rw [sends_log]
  suffices hnone : (effects.filterMap fun effect =>
      match effect with
      | .call _ none => some i
      | _ => none) = [] by rw [hnone, List.append_nil]
  rw [List.filterMap_eq_nil_iff]
  intro effect heffect
  split
  · next call => exact absurd rfl (h _ heffect call)
  · rfl

theorem Once.exclusive (hs : Once job start ttl s) : Exclusive Phase.between s.deliveries :=
  hs.single

/-- A step that lets nobody in between, takes no sender out before its mark,
sends nothing and keeps the entry of the job. -/
theorem Once.of_weaker (hs : Once job start ttl s) (hclock : s.now ≤ t.now)
    (hlasts : Lasts t.dedup ttl) (hsome : t.dedup.isSome = s.dedup.isSome)
    (henters : NobodyEnters Phase.between s.deliveries t.deliveries)
    (hunmarked : ∀ j p, s.deliveries j = some p → p.unmarked = true →
      ∃ q, t.deliveries j = some q ∧ q.unmarked = true)
    (hholds : t.now < start + ttl → Holds s.dedup ttl (jobKey job) (start + ttl) →
      Holds t.dedup ttl (jobKey job) (start + ttl))
    (hsends : sends t = sends s) : Once job start ttl t := by
  refine ⟨Int.le_trans hs.clock hclock, hlasts, ?_, hs.exclusive.of_nobodyEnters henters, ?_⟩
  · rw [hsome]
    exact WhileInside.of_nobodyEnters hs.enabled henters
  · rw [hsends]
    rcases hs.covered with hnone | ⟨k, hsent, ⟨p, hp, hpunmarked⟩ | ⟨hnobody, hentry⟩⟩
    · exact .inl hnone
    · exact .inr ⟨k, hsent, .inl (hunmarked k p hp hpunmarked)⟩
    · refine .inr ⟨k, hsent, .inr ⟨Vacant.of_nobodyEnters hnobody henters, ?_⟩⟩
      intro hnow
      exact hholds hnow (hentry (by omega))

/-- One delivery moves on, and is not newly between nor newly past its send. -/
theorem Once.of_moved {phase phase' : Phase} {dedup : Option DedupCache} {effects : List Effect}
    (hs : Once job start ttl s) (hphase : s.deliveries i = some phase)
    (hbetween : phase'.between = true → phase.between = true)
    (hunmarked : phase'.unmarked = phase.unmarked) (hquiet : Quiet effects)
    (hlasts : Lasts dedup ttl) (hsome : dedup.isSome = s.dedup.isSome)
    (hholds : s.now < start + ttl → Holds s.dedup ttl (jobKey job) (start + ttl) →
      Holds dedup ttl (jobKey job) (start + ttl)) :
    Once job start ttl { s with
      dedup := dedup
      deliveries := Function.update s.deliveries i (some phase')
      log := s.log ++ effects.map fun effect => (i, effect) } := by
  have henters : NobodyEnters Phase.between s.deliveries
      (Function.update s.deliveries i (some phase')) :=
    .update fun h => ⟨phase, hphase, hbetween h⟩
  refine hs.of_weaker (Int.le_refl _) hlasts hsome henters ?_ hholds (sends_quiet hquiet)
  intro j p hp hpunmarked
  by_cases hj : j = i
  · subst hj
    obtain rfl := Option.some.inj (hphase.symm.trans hp)
    exact ⟨phase', Function.update_self _ _ _, hunmarked.trans hpunmarked⟩
  · exact ⟨p, (Function.update_of_ne hj _ _).trans hp, hpunmarked⟩

/-- The check of a job the cache does not know. -/
theorem once_fresh (hs : Once job start ttl s)
    (halone : ChecksAlone job (start + ttl) s (.work i .check))
    (hverdict : (isDuplicate s.now s.dedup queueOutgoingMessages job.jobID).1 = false) :
    Once job start ttl { s with
      dedup := (isDuplicate s.now s.dedup queueOutgoingMessages job.jobID).2
      deliveries := Function.update s.deliveries i (some .fresh)
      log := s.log ++ [].map fun effect => (i, effect) } := by
  obtain ⟨hsome, hid, hnow, hnobody⟩ := halone
  have hvacant : Vacant Phase.between s.deliveries := hnobody
  have hnone : sends s = [] := by
    rcases hs.covered with hnone | ⟨k, -, ⟨p, hp, hpunmarked⟩ | ⟨-, hentry⟩⟩
    · exact hnone
    · exact hvacant.whileInside k p hp (Phase.between_of_unmarked hpunmarked)
    · rw [(hentry hnow).isDuplicate hid hnow] at hverdict
      cases hverdict
  refine ⟨hs.clock, hs.lasts.after_check, ?_,
    hvacant.enter fun j hj => Function.update_of_ne hj _ _, .inl ?_⟩
  · intro j q _ _
    exact ⟨by simpa using hsome, hid⟩
  · rw [sends_quiet (by simp [Quiet])]
    exact hnone

/-- The first successful send. -/
theorem once_sent {call : ManagerCall} {messageID : String} (hs : Once job start ttl s)
    (hphase : s.deliveries i = some .processing) :
    Once job start ttl { s with
      deliveries := Function.update s.deliveries i (some (.sent messageID))
      log := s.log ++ [.call call none].map fun effect => (i, effect) } := by
  have hnone : sends s = [] := by
    rcases hs.covered with hnone | ⟨k, -, ⟨p, hp, hpunmarked⟩ | ⟨hnobody, -⟩⟩
    · exact hnone
    · obtain rfl := hs.single k i p .processing hp hphase (Phase.between_of_unmarked hpunmarked)
        rfl
      obtain rfl := Option.some.inj (hphase.symm.trans hp)
      cases hpunmarked
    · cases hnobody i _ hphase
  have henters : NobodyEnters Phase.between s.deliveries
      (Function.update s.deliveries i (some (.sent messageID))) :=
    .update fun _ => ⟨.processing, hphase, rfl⟩
  refine ⟨hs.clock, hs.lasts, WhileInside.of_nobodyEnters hs.enabled henters,
    hs.exclusive.of_nobodyEnters henters,
    .inr ⟨i, ?_, .inl ⟨_, Function.update_self _ _ _, rfl⟩⟩⟩
  rw [sends_log, hnone]
  rfl

/-- The mark: from here on the cache knows the job. -/
theorem once_marked {messageID : String} (hs : Once job start ttl s)
    (hphase : s.deliveries i = some (.completed messageID)) :
    Once job start ttl { s with
      dedup := markProcessed s.now s.dedup queueOutgoingMessages job.jobID
      deliveries := Function.update s.deliveries i (some (.marked messageID))
      log := s.log ++ [].map fun effect => (i, effect) } := by
  obtain ⟨hsome, hid⟩ := hs.enabled i _ hphase rfl
  obtain ⟨d, hd⟩ := Option.isSome_iff_exists.mp hsome
  have hvacant : Vacant Phase.between
      (Function.update s.deliveries i (some (.marked messageID))) := by
    refine hs.exclusive.leave hphase rfl (fun j hj => Function.update_of_ne hj _ _) ?_
    intro q hq
    rw [Function.update_self] at hq
    obtain rfl := Option.some.inj hq
    rfl
  have hentry : Holds (markProcessed s.now s.dedup queueOutgoingMessages job.jobID) ttl
      (jobKey job) (start + ttl) := by
    have httl : d.ttl = ttl := hs.lasts d hd
    have hclock := hs.clock
    rw [hd, ← httl]
    exact holds_mark hid (by omega)
  refine ⟨hs.clock, hs.lasts.after_mark, hvacant.whileInside, hvacant.exclusive, ?_⟩
  rw [sends_quiet (by simp [Quiet])]
  rcases hs.covered with hnone | ⟨k, hsent, -⟩
  · exact .inl hnone
  · exact .inr ⟨k, hsent, .inr ⟨hvacant, fun _ => hentry⟩⟩

theorem once_work {w : Work} {phase phase' : Phase} {dedup : Option DedupCache}
    {effects : List Effect} (hs : Once job start ttl s) (hphase : s.deliveries i = some phase)
    (hworked : Worked decodeString job s.now s.dedup phase w dedup effects phase')
    (halone : ChecksAlone job (start + ttl) s (.work i w)) :
    Once job start ttl { s with
      dedup := dedup
      deliveries := Function.update s.deliveries i (some phase')
      log := s.log ++ effects.map fun effect => (i, effect) } := by
  cases hworked with
  | duplicate _ =>
    exact hs.of_moved hphase (by simp [Phase.between]) rfl (by simp [Quiet])
      hs.lasts.after_check isDuplicate_isSome fun hnow hentry =>
        hentry.after_check (Int.le_of_lt hnow)
  | fresh hverdict => exact once_fresh hs halone hverdict
  | sent _ => exact once_sent hs hphase
  | marked => exact once_marked hs hphase
  | _ =>
    exact hs.of_moved hphase (by simp [Phase.between]) rfl (by simp [Quiet]) hs.lasts rfl
      fun _ hentry => hentry

/-- The step lemma of the single send. -/
theorem once_step (hstep : step decodeString job s a = some t)
    (halone : ChecksAlone job (start + ttl) s a) (hs : Once job start ttl s) :
    Once job start ttl t := by
  cases step_stepped hstep with
  | tick hd =>
    exact hs.of_weaker (Int.le_add_of_nonneg_right hd) hs.lasts rfl
      (.refl _ _) (fun _ p hp hunmarked => ⟨p, hp, hunmarked⟩)
      (fun _ hentry => hentry) rfl
  | @deliver i habsent =>
    refine hs.of_weaker (Int.le_refl _) hs.lasts rfl (.update fun h => by cases h) ?_
      (fun _ hentry => hentry) rfl
    intro j p hp hunmarked
    have hji : j ≠ i := by
      rintro rfl
      rw [habsent] at hp
      cases hp
    exact ⟨p, (Function.update_of_ne hji _ _).trans hp, hunmarked⟩
  | work hphase hworked => exact once_work hs hphase hworked halone
  | checkOther =>
    exact hs.of_weaker (Int.le_refl _) hs.lasts.after_check isDuplicate_isSome
      (.refl _ _) (fun _ p hp hunmarked => ⟨p, hp, hunmarked⟩)
      (fun hnow hentry => hentry.after_check (Int.le_of_lt hnow)) rfl
  | markOther =>
    have hclock := hs.clock
    exact hs.of_weaker (Int.le_refl _) hs.lasts.after_mark markProcessed_isSome
      (.refl _ _) (fun _ p hp hunmarked => ⟨p, hp, hunmarked⟩)
      (fun hnow hentry => hentry.after_mark (Int.le_of_lt hnow) (by omega)) rfl

theorem once_init (job : OutgoingMessageJob) (cfg : Config) (start : Int) :
    Once job start (Duration.seconds cfg.queueDedupTTLSeconds) (init cfg start) := by
  refine ⟨Int.le_refl start, lasts_provideDedup cfg start, ?_, ?_, .inl rfl⟩
  · intro i phase hphase
    cases hphase
  · intro i j p q hp
    cases hp

theorem once_run {cfg : Config} {as : List Action}
    (hrun : Run (step decodeString job)
      (ChecksAlone job (start + Duration.seconds cfg.queueDedupTTLSeconds))
      (init cfg start) as s) :
    Once job start (Duration.seconds cfg.queueDedupTTLSeconds) s :=
  hrun.invariant (once_init job cfg start)
    fun _ _ _ halone hstep hs => once_step hstep halone hs

theorem Once.length_sends (hs : Once job start ttl s) : (sends s).length ≤ 1 := by
  rcases hs.covered with hnone | ⟨i, hsent, -⟩
  · simp [hnone]
  · simp [hsent]

end Once

/-- In every guarded run, at most one delivery of the job calls the Manager with
success. The guard is given the instant at which the run starts. -/
def AtMostOneSend (decodeString : DecodeString) (job : OutgoingMessageJob) (cfg : Config)
    (guard : Int → State → Action → Prop) : Prop :=
  ∀ start as s, Run (step decodeString job) (guard start) (init cfg start) as s →
    (sends s).length ≤ 1

/-- A job is sent at most once when no delivery makes its check while another is
between its check and its mark. -/
theorem at_most_one_send (decodeString : DecodeString) (job : OutgoingMessageJob)
    (cfg : Config) :
    AtMostOneSend decodeString job cfg fun start =>
      ChecksAlone job (start + Duration.seconds cfg.queueDedupTTLSeconds) := by
  intro start as s hrun
  exact (once_run hrun).length_sends

section TwoWorkers

def sampleJob : OutgoingMessageJob where
  jobID := "job-1"
  phoneNumber := "628111"
  type := "text"
  recipient := "628222@s.whatsapp.net"
  text := "hello"

/-- A delivery of the job that goes through to its send. -/
def sendsAfterCheck (i : Nat) : List Action :=
  [.work i (.wait .ok), .work i .updateProcessing, .work i (.send "wamid" none)]

/-- The old worker is still pacing when the redelivery makes its check. -/
def overlappingDeliveries : List Action :=
  [.deliver 0, .work 0 .check, .deliver 1, .work 1 .check] ++
    sendsAfterCheck 0 ++ sendsAfterCheck 1

/-- Two deliveries, within the TTL of a cache that is enabled. -/
def TwoWorkers (ttl start : Int) (s : State) : Action → Prop
  | .deliver i => s.now < start + ttl ∧ i < 2
  | _ => s.now < start + ttl

instance TwoWorkers.decidable (ttl start : Int) (s : State) :
    ∀ a, Decidable (TwoWorkers ttl start s a)
  | .deliver i => inferInstanceAs (Decidable (s.now < start + ttl ∧ i < 2))
  | .tick _ => inferInstanceAs (Decidable (s.now < start + ttl))
  | .work _ _ => inferInstanceAs (Decidable (s.now < start + ttl))
  | .checkOther _ _ => inferInstanceAs (Decidable (s.now < start + ttl))
  | .markOther _ _ => inferInstanceAs (Decidable (s.now < start + ttl))

/-- Two workers with a delivery each may both send the job. -/
theorem overlapping_deliveries_send_twice :
    ¬ ∀ decodeString job cfg, cfg.queueDedupEnabled = true → job.jobID ≠ "" →
      AtMostOneSend decodeString job cfg
        (TwoWorkers (Duration.seconds cfg.queueDedupTTLSeconds)) := by
  intro honce
  let decodeString : DecodeString := fun _ => .ok []
  let s := final (step decodeString sampleJob) (init {} 0) overlappingDeliveries
  have hrun : Run (step decodeString sampleJob)
      (TwoWorkers (Duration.seconds (600 : Int)) 0) (init {} 0) overlappingDeliveries s :=
    Run.to_final (by decide +kernel) (by decide +kernel)
  have hlength := honce decodeString sampleJob {} rfl (by decide) 0 overlappingDeliveries s hrun
  have htwice : (sends s).length = 2 := by decide +kernel
  omega

end TwoWorkers

end WhatsappGateway.Outgoing
