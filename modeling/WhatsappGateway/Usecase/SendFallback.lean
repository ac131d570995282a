import WhatsappGateway.Usecase.SendMessage

/-!
How often a request is sent. The error of a publish does not say whether the
broker has the job: after a confirm that timed out the usecase sends directly,
and the worker may send the job as well. Otherwise the two paths exclude each
other, and the workers' own condition does the rest.
-/

namespace WhatsappGateway.SendMessage

open Lib Outgoing

/-- Everything a step of the usecase can do. -/
inductive Advanced (cfg : Config) (req : SendRequest) (wire : Wire) :
    Phase → Move → Wire → List Effect → Phase → Prop where
  | healthy : Advanced cfg req wire .validated (.health true) wire [] .publishing
  | unhealthy : Advanced cfg req wire .validated (.health false) wire [] .fallback
  | refused : Advanced cfg req wire .publishing (.publish .refused) wire [] .fallback
  | broken : Advanced cfg req wire .publishing (.publish .broken) .written [] .fallback
  | awaiting : cfg.rabbitMQPublishConfirm = true →
      Advanced cfg req wire .publishing (.publish .ok) .written [] .awaiting
  | unconfirmed : cfg.rabbitMQPublishConfirm = false →
      Advanced cfg req wire .publishing (.publish .ok) .written [] .published
  | acked : wire = .accepted →
      Advanced cfg req wire .awaiting (.confirm .acked) wire [] .published
  | nacked : wire = .written →
      Advanced cfg req wire .awaiting (.confirm .nacked) .rejected [] .fallback
  | confirmFailed : Advanced cfg req wire .awaiting (.confirm .failed) wire [] .fallback
  | created : Advanced cfg req wire .published .createJob wire
      [.createJob req.jobID "queued" req.phoneNumber] .created
  | queued : Advanced cfg req wire .created .notifyQueued wire
      [.statusWebhook "message.queued" "" ""] (.done (.queued req.jobID))
  | paced : Advanced cfg req wire .fallback (.pace .ok) wire [] .paced
  | stopped {answer} : answer ≠ .ok →
      Advanced cfg req wire .fallback (.pace answer) wire [] (.done (.paced answer))
  | sent {returned} : Advanced cfg req wire .paced (.send returned none) wire
      [.call (directCall req) none] (.sent returned)
  | failed {returned err} : Advanced cfg req wire .paced (.send returned (some err)) wire
      [.call (directCall req) (some err)] (.failed err)
  | notifySent {messageID} : Advanced cfg req wire (.sent messageID) .notifySent wire
      [.statusWebhook "message.sent" messageID ""] (.done (.direct messageID))
  | notifyFailed {err} : Advanced cfg req wire (.failed err) .notifyFailed wire
      [.statusWebhook "message.failed" "" err] (.done (.failed err))

theorem advance_advanced {cfg : Config} {req : SendRequest} {wire wire' : Wire}
    {phase phase' : Phase} {mv : Move} {effects : List Effect}
    (h : advance cfg req wire phase mv = some (wire', effects, phase')) :
    Advanced cfg req wire phase mv wire' effects phase' := by
  unfold advance at h
  split at h
  · next healthy =>
    cases h
    cases healthy with
    | true => exact .healthy
    | false => exact .unhealthy
  · cases h
    exact .refused
  · cases h
    exact .broken
  · cases hconfirm : cfg.rabbitMQPublishConfirm with
    | true =>
      rw [hconfirm] at h
      cases h
      exact .awaiting hconfirm
    | false =>
      rw [hconfirm] at h
      cases h
      exact .unconfirmed hconfirm
  · split at h
    · next hwire =>
      cases h
      exact .acked hwire
    · cases h
  · split at h
    · next hwire =>
      cases h
      exact .nacked hwire
    · cases h
  · cases h
    exact .confirmFailed
  · cases h
    exact .created
  · cases h
    exact .queued
  · next answer =>
    by_cases hanswer : answer = .ok
    · subst hanswer
      cases h
      exact .paced
    · simp only [hanswer, if_false, Option.some.injEq, Prod.mk.injEq] at h
      obtain ⟨rfl, rfl, rfl⟩ := h
      exact .stopped hanswer
  · split at h
    · cases h
      exact .sent
    · cases h
      exact .failed
  · cases h
    exact .notifySent
  · cases h
    exact .notifyFailed
  · cases h

/-- The phases before anything is written. -/
def Phase.unpublished : Phase → Bool
  | .validated => true
  | .publishing => true
  | _ => false

/-- The phases after a publish that reported an error, or was not tried. -/
def Phase.gaveUp : Phase → Bool
  | .fallback => true
  | .paced => true
  | .sent _ => true
  | .failed _ => true
  | .done (.queued _) => false
  | .done _ => true
  | _ => false

/-- The phases after a successful direct call. -/
def Phase.sentDirect : Phase → Bool
  | .sent _ => true
  | .done (.direct _) => true
  | _ => false

theorem Phase.gaveUp_of_sentDirect {phase : Phase} (h : phase.sentDirect = true) :
    phase.gaveUp = true := by
  cases phase with
  | sent _ => rfl
  | done reply =>
    cases reply with
    | direct _ => rfl
    | _ => cases h
  | _ => cases h

/-- The broker accepts no job whose publish reports an error, before or after
that; and the workers check alone. -/
def ErrorMeansUnaccepted (encodeToString : List UInt8 → String) (req : SendRequest)
    (deadline : Int) (s : State) : Action → Prop
  | .accept => s.phase.gaveUp = false
  | .request (.confirm .failed) => s.wire ≠ .accepted
  | .worker a => ChecksAlone (job encodeToString req) deadline s.worker a
  | _ => True

/-- Only one of the two paths is open. -/
structure Split (s : State) : Prop where
  unpublished : s.phase.unpublished = true → s.wire = .unwritten
  idle : s.wire ≠ .accepted → (∀ i, s.worker.deliveries i = none) ∧ sends s.worker = []
  gaveUp : s.phase.gaveUp = true → s.wire ≠ .accepted
  direct : directSends s = if s.phase.sentDirect then 1 else 0

section Split

variable {cfg : Config} {decodeString : DecodeString} {encodeToString : List UInt8 → String}
  {req : SendRequest} {deadline : Int} {s t : State} {a : Action}

theorem Advanced.counts {wire wire' : Wire} {phase phase' : Phase} {mv : Move}
    {effects : List Effect} (h : Advanced cfg req wire phase mv wire' effects phase') :
    (if phase.sentDirect then 1 else 0) + effects.countP Effect.isSend =
      if phase'.sentDirect then 1 else 0 := by
  cases h <;> rfl

theorem Advanced.unpublished {wire wire' : Wire} {phase phase' : Phase} {mv : Move}
    {effects : List Effect} (h : Advanced cfg req wire phase mv wire' effects phase')
    (hphase : phase'.unpublished = true) : phase.unpublished = true ∧ wire' = wire := by
  cases h with
  | healthy => exact ⟨rfl, rfl⟩
  | _ => cases hphase

/-- The usecase neither makes the broker accept a job nor takes one back. -/
theorem Advanced.accepted_iff {wire wire' : Wire} {phase phase' : Phase} {mv : Move}
    {effects : List Effect} (h : Advanced cfg req wire phase mv wire' effects phase')
    (hwire : phase.unpublished = true → wire = .unwritten) :
    wire' = .accepted ↔ wire = .accepted := by
  cases h with
  | broken => simp [hwire rfl]
  | awaiting _ => simp [hwire rfl]
  | unconfirmed _ => simp [hwire rfl]
  | nacked hwritten => simp [hwritten]
  | _ => rfl

theorem Advanced.gaveUp {wire wire' : Wire} {phase phase' : Phase} {mv : Move}
    {effects : List Effect} (h : Advanced cfg req wire phase mv wire' effects phase')
    (hwire : phase.unpublished = true → wire = .unwritten)
    (hconfirm : mv = .confirm .failed → wire ≠ .accepted) (hphase : phase'.gaveUp = true) :
    phase.gaveUp = true ∨ wire ≠ .accepted := by
  cases h with
  | unhealthy => exact .inr (by simp [hwire rfl])
  | refused => exact .inr (by simp [hwire rfl])
  | broken => exact .inr (by simp [hwire rfl])
  | nacked hwritten => exact .inr (by simp [hwritten])
  | confirmFailed => exact .inr (hconfirm rfl)
  | healthy => cases hphase
  | awaiting _ => cases hphase
  | unconfirmed _ => cases hphase
  | acked _ => cases hphase
  | created => cases hphase
  | queued => cases hphase
  | _ => exact .inl rfl

theorem split_request {mv : Move} {wire : Wire} {effects : List Effect} {phase : Phase}
    (hadvanced : Advanced cfg req s.wire s.phase mv wire effects phase)
    (hguard : ErrorMeansUnaccepted encodeToString req deadline s (.request mv))
    (hs : Split s) :
    Split { s with wire := wire, log := s.log ++ effects, phase := phase } := by
  have haccepted := hadvanced.accepted_iff hs.unpublished
  constructor
  · intro hphase
    obtain ⟨hold, hsame⟩ := hadvanced.unpublished hphase
    exact hsame.trans (hs.unpublished hold)
  · intro hwire
    exact hs.idle fun h => hwire (haccepted.mpr h)
  · intro hphase hwire
    have hconfirm : mv = .confirm .failed → s.wire ≠ .accepted := by
      rintro rfl
      exact hguard
    rcases hadvanced.gaveUp hs.unpublished hconfirm hphase with hold | hne
    · exact hs.gaveUp hold (haccepted.mp hwire)
    · exact hne (haccepted.mp hwire)
  · have hdirect := hs.direct
    have hcounts := hadvanced.counts
    simp only [directSends, List.countP_append] at hdirect ⊢
    omega

/-- Without a delivery the workers do nothing for the job. -/
theorem worker_idle {outgoing : OutgoingMessageJob} {w w' : Outgoing.State}
    {b : Outgoing.Action} (hstep : Outgoing.step decodeString outgoing w b = some w')
    (hdeliver : ∀ i, b ≠ .deliver i) (hidle : ∀ i, w.deliveries i = none) :
    (∀ i, w'.deliveries i = none) ∧ sends w' = sends w := by
  cases Outgoing.step_stepped hstep with
  | tick _ => exact ⟨hidle, rfl⟩
  | @deliver i _ => exact absurd rfl (hdeliver i)
  | @work i _ phase _ _ _ hphase _ =>
    rw [hidle i] at hphase
    cases hphase
  | checkOther => exact ⟨hidle, rfl⟩
  | markOther => exact ⟨hidle, rfl⟩

theorem split_worker {b : Outgoing.Action} {worker : Outgoing.State}
    (hdeliverable : Deliverable s.wire b = true)
    (hstep : Outgoing.step decodeString (job encodeToString req) s.worker b = some worker)
    (hs : Split s) : Split { s with worker := worker } := by
  refine ⟨hs.unpublished, ?_, hs.gaveUp, hs.direct⟩
  intro hwire
  obtain ⟨hidle, hnone⟩ := hs.idle hwire
  have hdeliver : ∀ i, b ≠ .deliver i := by
    rintro i rfl
    exact hwire (by simpa [Deliverable] using hdeliverable)
  obtain ⟨hidle', hsame⟩ := worker_idle hstep hdeliver hidle
  exact ⟨hidle', hsame.trans hnone⟩

/-- Both the exclusion of the two paths and the workers' single send. -/
structure OnePath (outgoing : OutgoingMessageJob) (start ttl : Int) (s : State) : Prop where
  split : Split s
  once : Once outgoing start ttl s.worker

theorem onePath_step {start ttl : Int}
    (hstep : step cfg decodeString encodeToString req s a = some t)
    (hguard : ErrorMeansUnaccepted encodeToString req (start + ttl) s a)
    (hs : OnePath (job encodeToString req) start ttl s) :
    OnePath (job encodeToString req) start ttl t := by
  unfold step at hstep
  split at hstep
  · next mv =>
    split at hstep
    · cases hstep
    next hadvance =>
    cases hstep
    exact ⟨split_request (advance_advanced hadvance) hguard hs.split, hs.once⟩
  · split at hstep
    · next hwire =>
      cases hstep
      refine ⟨⟨?_, fun h => absurd rfl h, ?_, hs.split.direct⟩, hs.once⟩
      · intro hphase
        have hunwritten := hs.split.unpublished hphase
        rw [hwire] at hunwritten
        cases hunwritten
      · intro hphase
        rw [show s.phase.gaveUp = false from hguard] at hphase
        cases hphase
    · cases hstep
  · next b =>
    split at hstep
    · next hdeliverable =>
      split at hstep
      · cases hstep
      next hworker =>
      cases hstep
      exact ⟨split_worker hdeliverable hworker hs.split, once_step hworker hguard hs.once⟩
    · cases hstep

theorem onePath_init (cfg : Config) (outgoing : OutgoingMessageJob) (start : Int) :
    OnePath outgoing start (Duration.seconds cfg.queueDedupTTLSeconds) (init cfg start) := by
  refine ⟨⟨fun _ => rfl, fun _ => ⟨fun _ => rfl, rfl⟩, ?_, rfl⟩, once_init outgoing cfg start⟩
  intro hphase
  cases hphase

theorem OnePath.totalSends_le {outgoing : OutgoingMessageJob} {start ttl : Int}
    (hs : OnePath outgoing start ttl s) : totalSends s ≤ 1 := by
  have hdirect := hs.split.direct
  have honce := hs.once.length_sends
  unfold totalSends
  cases hsent : s.phase.sentDirect with
  | false =>
    rw [hsent] at hdirect
    simp only [Bool.false_eq_true, if_false] at hdirect
    omega
  | true =>
    have hwire := hs.split.gaveUp (Phase.gaveUp_of_sentDirect hsent)
    rw [hsent] at hdirect
    simp only [if_true] at hdirect
    rw [(hs.split.idle hwire).2, hdirect]
    exact Nat.le_refl 1

end Split

/-- In every guarded run the message of the request is sent at most once, by the
workers and by the usecase together. -/
def SendsOnce (cfg : Config) (decodeString : DecodeString)
    (encodeToString : List UInt8 → String) (req : SendRequest)
    (guard : Int → State → Action → Prop) : Prop :=
  ∀ start as s,
    Run (step cfg decodeString encodeToString req) (guard start) (init cfg start) as s →
    totalSends s ≤ 1

/-- A request is sent at most once when an error of the publish means that the
broker has not accepted the job. -/
theorem sends_once (cfg : Config) (decodeString : DecodeString)
    (encodeToString : List UInt8 → String) (req : SendRequest) :
    SendsOnce cfg decodeString encodeToString req fun start =>
      ErrorMeansUnaccepted encodeToString req
        (start + Duration.seconds cfg.queueDedupTTLSeconds) := by
  intro start as s hrun
  have hs := hrun.invariant (onePath_init cfg (job encodeToString req) start)
    fun _ _ _ hguard hstep hs => onePath_step hstep hguard hs
  exact hs.totalSends_le

section Timeout

def sampleSend : SendRequest where
  jobID := "job-1"
  phoneNumber := "628111"
  recipient := "628222@s.whatsapp.net"
  ctx := ⟨"", "", "", []⟩
  content := .text "hello"

/-- The confirm of the publish times out, and the broker accepts the job. -/
def confirmTimesOut : List Action :=
  [.request (.health true), .request (.publish .ok), .request (.confirm .failed), .accept,
    .request (.pace .ok), .request (.send "wamid-1" none)] ++
    [.worker (.deliver 0), .worker (.work 0 .check)] ++ (sendsAfterCheck 0).map .worker

/-- The job is delivered once, and never again. -/
def OneDelivery (_ : State) : Action → Prop
  | .worker (.deliver i) => i = 0
  | _ => True

instance OneDelivery.decidable (s : State) : ∀ a, Decidable (OneDelivery s a)
  | .worker (.deliver i) => inferInstanceAs (Decidable (i = 0))
  | .worker (.tick _) => inferInstanceAs (Decidable True)
  | .worker (.work _ _) => inferInstanceAs (Decidable True)
  | .worker (.checkOther _ _) => inferInstanceAs (Decidable True)
  | .worker (.markOther _ _) => inferInstanceAs (Decidable True)
  | .request _ => inferInstanceAs (Decidable True)
  | .accept => inferInstanceAs (Decidable True)

/-- A confirm that times out lets both paths send, without any redelivery. -/
theorem confirm_timeout_sends_twice :
    ¬ ∀ cfg decodeString encodeToString req,
      SendsOnce cfg decodeString encodeToString req fun _ => OneDelivery := by
  intro honce
  let decodeString : DecodeString := fun _ => .ok []
  let encodeToString : List UInt8 → String := fun _ => ""
  let s := final (step {} decodeString encodeToString sampleSend) (init {} 0) confirmTimesOut
  have hrun : Run (step {} decodeString encodeToString sampleSend) OneDelivery
      (init {} 0) confirmTimesOut s :=
    Run.to_final (by decide +kernel) (by decide +kernel)
  have hlimit := honce {} decodeString encodeToString sampleSend 0 confirmTimesOut s hrun
  have htwice : totalSends s = 2 := by decide +kernel
  omega

end Timeout

end WhatsappGateway.SendMessage
