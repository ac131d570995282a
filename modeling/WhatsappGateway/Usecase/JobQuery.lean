import WhatsappGateway.Usecase.JobStatus
import WhatsappGateway.Usecase.QueueFaithful

/-!
What is told about a job. A row is read while the request and the workers write to it, and only
the account it belongs to may read it. An error that the use case raises itself has no cause,
and the handler asks every error for the text of its cause: that panics, and the server answers
with what it has recovered.
-/

namespace WhatsappGateway.JobStatus

open Lib

/-- `Get`: the row with the key, when the database answers. -/
def get (database : Option String) (table : JobTable) (jobID : String) :
    Except String (Option MessageJob) :=
  match database with
  | some err => .error ("failed to get job: " ++ err)
  | none => .ok (table jobID)

structure JobStatusResponse where
  jobID : String
  status : String
  messageID : Option String
  error : Option String
  createdAt : String
  completedAt : Option String
deriving DecidableEq, Repr

inductive QueryErrorKind where
  | badRequest
  | internalFailure
  | notFound
  | forbidden
deriving DecidableEq, Repr

/-- An error and its cause, which may be missing. -/
structure QueryError where
  svcError : QueryErrorKind
  appErr : Option String
deriving DecidableEq, Repr

/-- A job as it is told; `format` writes an instant. -/
def jobResponse (format : Int → String) (job : MessageJob) : JobStatusResponse where
  jobID := job.jobID
  status := job.status
  messageID := job.messageID
  error := job.errorMessage
  createdAt := format job.createdAt
  completedAt := job.completedAt.map format

def getJobStatus (format : Int → String) (database : Option String) (table : JobTable)
    (phoneNumber jobID : String) : Except QueryError JobStatusResponse :=
  if jobID = "" then .error ⟨.badRequest, none⟩
  else
    match get database table jobID with
    | .error err => .error ⟨.internalFailure, some err⟩
    | .ok none => .error ⟨.notFound, none⟩
    | .ok (some job) =>
      if job.phoneNumber ≠ phoneNumber then .error ⟨.forbidden, none⟩
      else .ok (jobResponse format job)

structure APIError where
  status : Nat
  message : String
deriving DecidableEq, Repr

def QueryErrorKind.status : QueryErrorKind → Nat
  | .badRequest => 400
  | .internalFailure => 500
  | .notFound => 404
  | .forbidden => 403

/-- `FromError`: it panics when the cause is missing. -/
def fromError (err : QueryError) : Option APIError :=
  err.appErr.map fun message => ⟨err.svcError.status, message⟩

/-- What the server answers when a handler has panicked on a nil error. -/
def recovered : APIError :=
  ⟨500, "runtime error: invalid memory address or nil pointer dereference"⟩

/-- The handler `GetJobStatus`. -/
def jobReply (format : Int → String) (database : Option String) (table : JobTable)
    (phoneNumber jobID : String) : Except APIError JobStatusResponse :=
  (getJobStatus format database table phoneNumber jobID).mapError fun err =>
    (fromError err).getD recovered

section Replies

variable {format : Int → String} {table table' : JobTable} {phoneNumber jobID : String}
  {job : MessageJob}

/-- Of a job that is not there, and of a job of another account, the same is told. -/
theorem jobReply_untold
    (huntold : ∀ job, table jobID = some job → job.phoneNumber ≠ phoneNumber) :
    jobReply format none table phoneNumber jobID = .error recovered := by
  unfold jobReply getJobStatus get
  by_cases hempty : jobID = ""
  · rw [if_pos hempty]
    rfl
  · rw [if_neg hempty]
    cases hrow : table jobID with
    | none => rfl
    | some job =>
      dsimp only
      rw [if_pos (huntold job hrow)]
      rfl

theorem jobReply_told (hsome : jobID ≠ "") (hrow : table jobID = some job) :
    jobReply format none table job.phoneNumber jobID = .ok (jobResponse format job) := by
  unfold jobReply getJobStatus get
  rw [if_neg hsome, hrow]
  dsimp only
  rw [if_neg (not_not.mpr rfl)]
  rfl

theorem jobReply_congr (h : table jobID = table' jobID) :
    jobReply format none table phoneNumber jobID = jobReply format none table' phoneNumber jobID := by
  unfold jobReply getJobStatus get
  dsimp only
  rw [h]

end Replies

/-! ### What is told is true -/

open SendMessage (SendRequest Action)

/-- What is said about the job is backed by what has happened: a message id by a send which
returned it, and an error by a send which failed with it. -/
inductive Backed (as : List Action) : String → Option String → Option String → Bool → Prop where
  | queued : Backed as "queued" none none false
  | processing : Backed as "processing" none none false
  | completed {i : Nat} {returned : String} :
      .worker (.work i (.send returned none)) ∈ as →
      Backed as "completed" (nullable returned) none true
  | failed {i : Nat} {returned err : String} :
      .worker (.work i (.send returned (some err))) ∈ as →
      Backed as "failed" none (some (Outgoing.failureText err)) true

/-- So is the point which a delivery has reached. -/
inductive PhaseBacked (as : List Action) : Outgoing.Phase → Prop where
  | delivered : PhaseBacked as .delivered
  | fresh : PhaseBacked as .fresh
  | paced : PhaseBacked as .paced
  | processing : PhaseBacked as .processing
  | sent {i : Nat} {returned : String} :
      .worker (.work i (.send returned none)) ∈ as → PhaseBacked as (.sent returned)
  | completed {messageID : String} : PhaseBacked as (.completed messageID)
  | marked {messageID : String} : PhaseBacked as (.marked messageID)
  | failing {i : Nat} {returned err : String} :
      .worker (.work i (.send returned (some err))) ∈ as → PhaseBacked as (.failing err)
  | failed {err : String} : PhaseBacked as (.failed err)
  | done {outcome : Outgoing.Outcome} : PhaseBacked as (.done outcome)

theorem Backed.later {as : List Action} {status : String} {messageID errorMessage : Option String}
    {finished : Bool} (h : Backed as status messageID errorMessage finished) (a : Action) :
    Backed (as ++ [a]) status messageID errorMessage finished := by
  cases h with
  | queued => exact .queued
  | processing => exact .processing
  | completed hsent => exact .completed (List.mem_append_left _ hsent)
  | failed hfailed => exact .failed (List.mem_append_left _ hfailed)

theorem PhaseBacked.later {as : List Action} {phase : Outgoing.Phase} (h : PhaseBacked as phase)
    (a : Action) : PhaseBacked (as ++ [a]) phase := by
  cases h with
  | delivered => exact .delivered
  | fresh => exact .fresh
  | paced => exact .paced
  | processing => exact .processing
  | sent hsent => exact .sent (List.mem_append_left _ hsent)
  | completed => exact .completed
  | marked => exact .marked
  | failing hfailed => exact .failing (List.mem_append_left _ hfailed)
  | failed => exact .failed
  | done => exact .done

/-! ### The statements on the table -/

section Statements

variable {table : JobTable} {row : MessageJob} {jobID other status phoneNumber messageID
  errorMessage : String} {now : Int}

theorem create_frame (hother : other ≠ jobID) :
    (create table now jobID status phoneNumber).getD table other = table other := by
  unfold create
  cases table jobID with
  | none => exact Function.update_of_ne hother ..
  | some row => rfl

/-- The row that an insert leaves is the one that was there, or the new one. -/
theorem create_row (hrow : (create table now jobID status phoneNumber).getD table jobID =
      some row) :
    table jobID = some row ∨ row = ⟨jobID, phoneNumber, status, none, none, now, now, none⟩ := by
  unfold create at hrow
  cases htable : table jobID with
  | none =>
    rw [htable, Option.getD_some, Function.update_self] at hrow
    exact .inr (Option.some.inj hrow).symm
  | some old =>
    rw [htable, Option.getD_none] at hrow
    exact .inl (htable ▸ hrow)

theorem create_inserted :
    ((create table now jobID status phoneNumber).getD table jobID).isSome = true := by
  unfold create
  cases htable : table jobID with
  | none => simp
  | some old => simp [htable]

theorem updateStatus_frame (hother : other ≠ jobID) :
    updateStatus table now jobID status messageID errorMessage other = table other := by
  unfold updateStatus
  cases table jobID with
  | none => rfl
  | some row => exact Function.update_of_ne hother ..

theorem updateStatus_row :
    updateStatus table now jobID status messageID errorMessage jobID =
      (table jobID).map fun row => { row with
        status := status
        messageID := nullable messageID
        errorMessage := nullable errorMessage
        updatedAt := now
        completedAt := if status = "completed" ∨ status = "failed" then some now else none } := by
  unfold updateStatus
  cases htable : table jobID with
  | none => simp [htable]
  | some row => simp

end Statements

/-! ### The run -/

/-- The row is the request's, and backed; it is there once it has been inserted, and the other
rows of the table are as they were. -/
structure Told (req : SendRequest) (start : JobTable) (as : List Action) (s : State) : Prop where
  phases : ∀ i phase, s.sys.worker.deliveries i = some phase → PhaseBacked as phase
  row : ∀ job, s.table req.jobID = some job → job.jobID = req.jobID ∧
    job.phoneNumber = req.phoneNumber ∧
    Backed as job.status job.messageID job.errorMessage job.completedAt.isSome
  inserted : (s.table req.jobID).isSome = true ↔ .request .createJob ∈ as
  frame : ∀ jobID, jobID ≠ req.jobID → s.table jobID = start jobID

section Steps

variable {cfg : Config} {decodeString : Outgoing.DecodeString}
  {encodeToString : List UInt8 → String} {req : SendRequest} {start : JobTable} {s t : State}
  {as : List Action} {a : Action}

/-- A step that leaves the table alone. -/
theorem Told.silent (hs : Told req start as s) (hcreate : a ≠ .request .createJob)
    (hphases : ∀ i phase, t.sys.worker.deliveries i = some phase → PhaseBacked (as ++ [a]) phase)
    (htable : t.table = s.table) : Told req start (as ++ [a]) t where
  phases := hphases
  row := by
    intro job hjob
    rw [htable] at hjob
    obtain ⟨hid, hphone, hbacked⟩ := hs.row job hjob
    exact ⟨hid, hphone, hbacked.later a⟩
  inserted := by
    rw [htable, hs.inserted, List.mem_append, List.mem_singleton]
    exact ⟨.inl, fun h => h.resolve_right hcreate.symm⟩
  frame := by rw [htable]; exact hs.frame

theorem Told.insert {now : Int} (hs : Told req start as s)
    (hphases : t.sys.worker.deliveries = s.sys.worker.deliveries)
    (htable : t.table = (create s.table now req.jobID "queued" req.phoneNumber).getD s.table) :
    Told req start (as ++ [.request .createJob]) t where
  phases := by
    rw [hphases]
    exact fun i phase hphase => (hs.phases i phase hphase).later _
  row := by
    intro job hjob
    rw [htable] at hjob
    rcases create_row hjob with hold | rfl
    · obtain ⟨hid, hphone, hbacked⟩ := hs.row job hold
      exact ⟨hid, hphone, hbacked.later _⟩
    · exact ⟨rfl, rfl, .queued⟩
  inserted := by
    rw [htable]
    exact iff_of_true create_inserted (by simp)
  frame := by
    intro jobID hother
    rw [htable, create_frame hother]
    exact hs.frame jobID hother

/-- An update whose values are backed. -/
theorem Told.update {now : Int} {status messageID errorMessage : String} {finished : Bool}
    (hs : Told req start as s) (hcreate : a ≠ .request .createJob)
    (hphases : ∀ i phase, t.sys.worker.deliveries i = some phase → PhaseBacked (as ++ [a]) phase)
    (hfinished : decide (status = "completed" ∨ status = "failed") = finished)
    (hbacked : Backed (as ++ [a]) status (nullable messageID) (nullable errorMessage) finished)
    (htable : t.table = updateStatus s.table now req.jobID status messageID errorMessage) :
    Told req start (as ++ [a]) t where
  phases := hphases
  row := by
    intro job hjob
    rw [htable, updateStatus_row] at hjob
    obtain ⟨old, hold, rfl⟩ := Option.map_eq_some_iff.mp hjob
    obtain ⟨hid, hphone, -⟩ := hs.row old hold
    refine ⟨hid, hphone, ?_⟩
    have hsome : (if status = "completed" ∨ status = "failed" then some now else none).isSome =
        finished := by
      rw [← hfinished]
      by_cases hterminal : status = "completed" ∨ status = "failed"
      · rw [if_pos hterminal, decide_eq_true hterminal]
        rfl
      · rw [if_neg hterminal, decide_eq_false hterminal]
        rfl
    dsimp only
    rw [hsome]
    exact hbacked
  inserted := by
    rw [htable, updateStatus_row, Option.isSome_map, hs.inserted, List.mem_append,
      List.mem_singleton]
    exact ⟨.inl, fun h => h.resolve_right hcreate.symm⟩
  frame := by
    intro jobID hother
    rw [htable, updateStatus_frame hother]
    exact hs.frame jobID hother

theorem sentID_directCall (job : Outgoing.OutgoingMessageJob) (returned : String) :
    Outgoing.sentID job (SendMessage.directCall req) returned = returned := by
  unfold SendMessage.directCall
  cases req.content with
  | text | image | audio | video | document | location | poll | sticker => rfl

theorem failureText_ne_empty (err : String) : Outgoing.failureText err ≠ "" := by
  unfold Outgoing.failureText
  intro hempty
  have hchars : ("Failed to process job: " ++ err).toList = "".toList := by rw [hempty]
  rw [String.toList_append] at hchars
  simp at hchars

theorem nullable_some {text : String} (h : text ≠ "") : nullable text = some text := if_neg h

/-- A step of a delivery: it leads to a point that is backed, and it writes nothing or what is
backed. -/
theorem worked_told {now : Int} {i : Nat} {dedup dedup' : Option Queue.DedupCache}
    {phase phase' : Outgoing.Phase} {w : Outgoing.Work} {effects : List Outgoing.Effect}
    (hbase64 : ∀ bytes, decodeString (encodeToString bytes) = .ok bytes)
    (hphase : PhaseBacked as phase)
    (h : Outgoing.Worked decodeString (SendMessage.job encodeToString req) now dedup phase w dedup'
      effects phase') :
    PhaseBacked (as ++ [.worker (.work i w)]) phase' ∧
      ((∀ jobID now table, effects.foldl (workerEffect jobID now) table = table) ∨
        ∃ status messageID errorMessage finished,
          effects = [.updateStatus status messageID errorMessage] ∧
          decide (status = "completed" ∨ status = "failed") = finished ∧
          Backed (as ++ [.worker (.work i w)]) status (nullable messageID) (nullable errorMessage)
            finished) := by
  have hdispatch := SendMessage.dispatch_job hbase64 req
  have hempty : nullable "" = none := if_pos rfl
  have hlast : .worker (.work i w) ∈ as ++ [.worker (.work i w)] := by simp
  cases h with
  | duplicate => exact ⟨.done, .inl fun _ _ _ => rfl⟩
  | fresh => exact ⟨.fresh, .inl fun _ _ _ => rfl⟩
  | paced => exact ⟨.paced, .inl fun _ _ _ => rfl⟩
  | stopped => exact ⟨.done, .inl fun _ _ _ => rfl⟩
  | updateProcessing =>
    refine ⟨.processing, .inr ⟨"processing", "", "", false, rfl, by decide, ?_⟩⟩
    rw [hempty]
    exact .processing
  | undecodable hundecodable =>
    rw [hdispatch] at hundecodable
    cases hundecodable
  | refused => exact ⟨.failing hlast, .inl fun _ _ _ => rfl⟩
  | sent hsent =>
    obtain rfl := Except.ok.inj (hdispatch.symm.trans hsent)
    rw [sentID_directCall]
    exact ⟨.sent hlast, .inl fun _ _ _ => rfl⟩
  | @updateCompleted messageID =>
    refine ⟨.completed, .inr ⟨"completed", messageID, "", true, rfl, by decide, ?_⟩⟩
    rw [hempty]
    cases hphase with
    | sent hsent => exact .completed (List.mem_append_left _ hsent)
  | marked => exact ⟨.marked, .inl fun _ _ _ => rfl⟩
  | notifySent => exact ⟨.done, .inl fun _ _ _ => rfl⟩
  | @updateFailed err =>
    refine ⟨.failed, .inr ⟨"failed", "", Outgoing.failureText err, true, rfl, by decide, ?_⟩⟩
    rw [hempty, nullable_some (failureText_ne_empty err)]
    cases hphase with
    | failing hfailed => exact .failed (List.mem_append_left _ hfailed)
  | notifyFailed => exact ⟨.done, .inl fun _ _ _ => rfl⟩

/-- One delivery moves on. -/
theorem backed_update {deliveries : Nat → Option Outgoing.Phase} {i : Nat}
    {phase : Outgoing.Phase} (hphase : PhaseBacked as phase)
    (hothers : ∀ j phase, deliveries j = some phase → PhaseBacked as phase) :
    ∀ j phase', Function.update deliveries i (some phase) j = some phase' →
      PhaseBacked as phase' := by
  intro j other hother
  by_cases hsame : j = i
  · subst hsame
    rw [Function.update_self] at hother
    exact Option.some.inj hother ▸ hphase
  · rw [Function.update_of_ne hsame] at hother
    exact hothers j other hother

theorem told_request {mv : SendMessage.Move} (hs : Told req start as s)
    (h : step cfg decodeString encodeToString req s (.request mv) = some t) :
    Told req start (as ++ [.request mv]) t := by
  obtain ⟨wire, effects, phase, hadvanced, hsys, htable⟩ := step_request h
  have hdeliveries : t.sys.worker.deliveries = s.sys.worker.deliveries := by rw [hsys]
  have hphases : ∀ i phase, t.sys.worker.deliveries i = some phase →
      PhaseBacked (as ++ [.request mv]) phase := by
    rw [hdeliveries]
    exact fun i phase hphase => (hs.phases i phase hphase).later _
  generalize s.sys.phase = before at hadvanced
  cases hadvanced with
  | created => exact hs.insert hdeliveries htable
  | _ => exact hs.silent nofun hphases htable

theorem told_worker {b : Outgoing.Action}
    (hbase64 : ∀ bytes, decodeString (encodeToString bytes) = .ok bytes) (hs : Told req start as s)
    (h : step cfg decodeString encodeToString req s (.worker b) = some t) :
    Told req start (as ++ [.worker b]) t := by
  obtain ⟨worker, hstepped, hsys, htable⟩ := step_worker h
  have hlater : ∀ i phase, s.sys.worker.deliveries i = some phase →
      PhaseBacked (as ++ [.worker b]) phase :=
    fun i phase hphase => (hs.phases i phase hphase).later _
  cases hstepped with
  | tick | checkOther | markOther =>
    refine hs.silent nofun ?_ (by simpa using htable)
    rw [hsys]
    exact hlater
  | @deliver i =>
    have hdeliveries : t.sys.worker.deliveries =
        Function.update s.sys.worker.deliveries i (some .delivered) := by rw [hsys]
    refine hs.silent nofun ?_ (by simpa using htable)
    rw [hdeliveries]
    exact backed_update .delivered hlater
  | @work i w phase phase' dedup effects hdelivery hworked =>
    simp only [List.drop_left, List.map_map, Function.comp_def, List.map_id'] at htable
    have hdeliveries : t.sys.worker.deliveries =
        Function.update s.sys.worker.deliveries i (some phase') := by rw [hsys]
    obtain ⟨hbacked, hwrites⟩ := worked_told (i := i) hbase64 (hs.phases i phase hdelivery) hworked
    have hphases : ∀ j phase, t.sys.worker.deliveries j = some phase →
        PhaseBacked (as ++ [.worker (.work i w)]) phase := by
      rw [hdeliveries]
      exact backed_update hbacked hlater
    rcases hwrites with hkeeps | ⟨status, messageID, errorMessage, finished, rfl, hfinished, hupdate⟩
    · exact hs.silent nofun hphases (by rw [htable, hkeeps])
    · exact hs.update nofun hphases hfinished hupdate htable

end Steps

section Queries

variable {cfg : Config} {decodeString : Outgoing.DecodeString}
  {encodeToString : List UInt8 → String} {req : SendRequest} {start : JobTable} {s t : State}
  {as bs : List Action} {a : Action} {now : Int}

/-- The broker's acceptance writes nothing. -/
theorem step_accept (h : step cfg decodeString encodeToString req s .accept = some t) :
    t.sys.worker = s.sys.worker ∧ t.table = s.table := by
  simp only [step, SendMessage.step] at h
  by_cases hwritten : s.sys.wire = .written
  · simp only [if_pos hwritten, List.drop_length, List.map_nil, List.foldl_nil] at h
    cases h
    exact ⟨rfl, rfl⟩
  · simp only [if_neg hwritten] at h
    cases h

theorem told_step (hbase64 : ∀ bytes, decodeString (encodeToString bytes) = .ok bytes)
    (hs : Told req start as s) (h : step cfg decodeString encodeToString req s a = some t) :
    Told req start (as ++ [a]) t := by
  cases a with
  | request mv => exact told_request hs h
  | worker b => exact told_worker hbase64 hs h
  | accept =>
    obtain ⟨hworker, htable⟩ := step_accept h
    refine hs.silent nofun ?_ htable
    rw [hworker]
    exact fun i phase hphase => (hs.phases i phase hphase).later _

/-- By induction on the run: what is told is backed by the actions so far. -/
theorem told_run (hbase64 : ∀ bytes, decodeString (encodeToString bytes) = .ok bytes)
    (hs : Told req start as s)
    (hrun : Run (step cfg decodeString encodeToString req) (fun _ _ => True) s bs t) :
    Told req start (as ++ bs) t := by
  induction hrun generalizing as with
  | nil => rwa [List.append_nil]
  | cons _ hstep _ ih =>
    have hnext := ih (told_step hbase64 hs hstep)
    rwa [List.append_assoc] at hnext

theorem told_init (hfresh : start req.jobID = none) : Told req start [] (init cfg now start) where
  phases := nofun
  row := by
    intro job hjob
    exact absurd (hfresh.symm.trans hjob) nofun
  inserted := by simp [init, hfresh]
  frame := fun _ _ => rfl

/-- Whoever asks, at any point of any run of the request and the workers: the account is told
of its job from the insert on, and only what has happened; a message id was returned by a send of
the job, and an error is that of a send that failed. Another account is told the same as of a job
that does not exist, and nothing changes in what is told of other jobs. -/
theorem job_told_truly (format : Int → String)
    (hbase64 : ∀ bytes, decodeString (encodeToString bytes) = .ok bytes)
    (hsome : req.jobID ≠ "") (hfresh : start req.jobID = none)
    (hrun : Run (step cfg decodeString encodeToString req) (fun _ _ => True)
      (init cfg now start) as s) :
    (.request .createJob ∈ as → ∃ response,
      jobReply format none s.table req.phoneNumber req.jobID = .ok response ∧
      response.jobID = req.jobID ∧
      Backed as response.status response.messageID response.error
        response.completedAt.isSome) ∧
    (.request .createJob ∉ as →
      jobReply format none s.table req.phoneNumber req.jobID = .error recovered) ∧
    (∀ phoneNumber, phoneNumber ≠ req.phoneNumber →
      jobReply format none s.table phoneNumber req.jobID = .error recovered) ∧
    ∀ phoneNumber jobID, jobID ≠ req.jobID →
      jobReply format none s.table phoneNumber jobID =
        jobReply format none start phoneNumber jobID := by
  have hs := told_run hbase64 (told_init hfresh) hrun
  rw [List.nil_append] at hs
  refine ⟨?_, ?_, ?_, ?_⟩
  · intro hcreated
    obtain ⟨job, hjob⟩ := Option.isSome_iff_exists.mp (hs.inserted.mpr hcreated)
    obtain ⟨hid, hphone, hbacked⟩ := hs.row job hjob
    refine ⟨jobResponse format job, ?_, hid, ?_⟩
    · rw [← hphone]
      exact jobReply_told hsome hjob
    · rw [jobResponse, Option.isSome_map]
      exact hbacked
  · intro hcreated
    apply jobReply_untold
    intro job hjob
    exact absurd (hs.inserted.mp (by rw [hjob]; rfl)) hcreated
  · intro phoneNumber hother
    apply jobReply_untold
    intro job hjob
    rw [(hs.row job hjob).2.1]
    exact hother.symm
  · intro phoneNumber jobID hother
    exact jobReply_congr (hs.frame jobID hother)

section Sample

open SendMessage (base64Decode base64Decode_encode sampleSend)

def toldState : State :=
  final (step {} base64Decode Base64.encode sampleSend) (init {} 0 fun _ => none) workerLast

theorem job_told_truly_sent :
    ∃ response, jobReply toString none toldState.table "628111" "job-1" = .ok response ∧
      response.jobID = "job-1" ∧ Backed workerLast response.status response.messageID response.error
        response.completedAt.isSome := by
  have hrun : Run (step {} base64Decode Base64.encode sampleSend) (fun _ _ => True)
      (init {} 0 fun _ => none) workerLast toldState := Run.to_final_free (by decide +kernel)
  exact (job_told_truly toString base64Decode_encode (by decide) rfl hrun).1 (by decide +kernel)

/-- The one send has returned `wamid`. -/
example : jobReply toString none toldState.table "628111" "job-1" =
    .ok ⟨"job-1", "completed", some "wamid", none, "0", some "0"⟩ := by decide +kernel

end Sample

end Queries

end WhatsappGateway.JobStatus
