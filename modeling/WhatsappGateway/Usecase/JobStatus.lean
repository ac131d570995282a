import WhatsappGateway.Usecase.SendFallback

/-!
The row of a job. The usecase publishes the job before it inserts the row, and
the workers update the row of a job they have received, which affects nothing
while there is none. Two parties write: whose statement is the last one decides
what the row says in the end.
-/

namespace WhatsappGateway.JobStatus

open Lib

/-- A row of `message_jobs`. -/
structure MessageJob where
  jobID : String
  phoneNumber : String
  status : String
  messageID : Option String
  errorMessage : Option String
  createdAt : Int
  updatedAt : Int
  completedAt : Option Int
deriving DecidableEq, Repr

/-- The table, by its primary key. -/
abbrev JobTable := String → Option MessageJob

/-- An empty text is stored as null. -/
def nullable (s : String) : Option String := if s = "" then none else some s

/-- `Create`: an insert, which fails if the key is taken. -/
def create (table : JobTable) (now : Int) (jobID status phoneNumber : String) : Option JobTable :=
  match table jobID with
  | some _ => none
  | none => some (Function.update table jobID (some {
      jobID := jobID
      phoneNumber := phoneNumber
      status := status
      messageID := none
      errorMessage := none
      createdAt := now
      updatedAt := now
      completedAt := none }))

/-- `UpdateStatus`: an update of the row with the key, if there is one. -/
def updateStatus (table : JobTable) (now : Int) (jobID status messageID errorMessage : String) :
    JobTable :=
  match table jobID with
  | none => table
  | some row => Function.update table jobID (some { row with
      status := status
      messageID := nullable messageID
      errorMessage := nullable errorMessage
      updatedAt := now
      completedAt := if status = "completed" ∨ status = "failed" then some now else none })

/-- The request and the workers, with the table both write to. -/
structure State where
  sys : SendMessage.State
  table : JobTable

/-- An effect of the request on the table; an insert that fails is only logged. -/
def requestEffect (now : Int) (table : JobTable) : SendMessage.Effect → JobTable
  | .createJob jobID status phoneNumber =>
    (create table now jobID status phoneNumber).getD table
  | _ => table

/-- An effect of a worker on the table. -/
def workerEffect (jobID : String) (now : Int) (table : JobTable) : Outgoing.Effect → JobTable
  | .updateStatus status messageID errorMessage =>
    updateStatus table now jobID status messageID errorMessage
  | _ => table

/-- A step of the system. What it logs takes effect on the table at once. -/
def step (cfg : Config) (decodeString : Outgoing.DecodeString)
    (encodeToString : List UInt8 → String) (req : SendMessage.SendRequest) (s : State)
    (a : SendMessage.Action) : Option State :=
  match SendMessage.step cfg decodeString encodeToString req s.sys a with
  | none => none
  | some sys =>
    let now := sys.worker.now
    let requested := sys.log.drop s.sys.log.length
    let worked := (sys.worker.log.drop s.sys.worker.log.length).map Prod.snd
    some {
      sys := sys
      table := worked.foldl (workerEffect req.jobID now)
        (requested.foldl (requestEffect now) s.table) }

def init (cfg : Config) (now : Int) (table : JobTable) : State where
  sys := SendMessage.init cfg now
  table := table

/-- The statuses which the workers have reported, in order. -/
def statusOf : Nat × Outgoing.Effect → Option String
  | (_, .updateStatus status _ _) => some status
  | _ => none

def reported (s : State) : List String := s.sys.worker.log.filterMap statusOf

/-- Both have finished: the request has been answered as queued, and the workers
have reported on the job and are through with its deliveries. -/
structure Finished (req : SendMessage.SendRequest) (s : State) : Prop where
  request : s.sys.phase = .done (.queued req.jobID)
  deliveries : ∀ i phase, s.sys.worker.deliveries i = some phase → ∃ outcome, phase = .done outcome
  reported : reported s ≠ []

/-- The row exists, and its status is the last one reported. -/
def StatusKept (req : SendMessage.SendRequest) (s : State) : Prop :=
  ∃ row, s.table req.jobID = some row ∧ (reported s).getLast? = some row.status

/-- Who writes to the row. -/
inductive Writer where
  | request
  | worker
deriving DecidableEq, Repr

/-- The writer whose statement an action executes. -/
def writer : SendMessage.Action → Option Writer
  | .request .createJob => some .request
  | .worker (.work _ .updateProcessing) => some .worker
  | .worker (.work _ .updateCompleted) => some .worker
  | .worker (.work _ .updateFailed) => some .worker
  | _ => none

/-- The writers of a schedule, in order. -/
def writers (as : List SendMessage.Action) : List Writer := as.filterMap writer

theorem writers_cons (a : SendMessage.Action) (as : List SendMessage.Action) :
    writers (a :: as) = (writer a).toList ++ writers as := by
  cases hwriter : writer a with
  | none => simp [writers, hwriter]
  | some w => simp [writers, hwriter]

/-- The request has passed its insert. -/
def inserted : SendMessage.Phase → Bool
  | .created => true
  | .done (.queued _) => true
  | _ => false

/-- The row, by who has written: absent before the insert, and after it what the
last writer has left. -/
structure Tracked (req : SendMessage.SendRequest) (ws : List Writer) (s : State) : Prop where
  inserted_iff : inserted s.sys.phase = true ↔ .request ∈ ws
  reports : ∀ status ∈ reported s, status ≠ "queued"
  absent : .request ∉ ws → s.table req.jobID = none
  row : .request ∈ ws → ∃ row, s.table req.jobID = some row ∧
    (ws.getLast? = some .worker ∧ (reported s).getLast? = some row.status ∨
      ws.getLast? = some .request ∧ row.status = "queued")

theorem create_absent {table : JobTable} {jobID : String} (h : table jobID = none) (now : Int)
    (status phoneNumber : String) : ∃ table' row, create table now jobID status phoneNumber =
      some table' ∧ table' jobID = some row ∧ row.status = status := by
  refine ⟨_, _, by rw [create, h], Function.update_self .., rfl⟩

theorem updateStatus_absent {table : JobTable} {jobID : String} (h : table jobID = none) (now : Int)
    (status messageID errorMessage : String) :
    updateStatus table now jobID status messageID errorMessage = table := by
  rw [updateStatus, h]

theorem updateStatus_present {table : JobTable} {jobID : String} {row : MessageJob}
    (h : table jobID = some row) (now : Int) (status messageID errorMessage : String) :
    ∃ row', updateStatus table now jobID status messageID errorMessage jobID = some row' ∧
      row'.status = status := by
  rw [updateStatus, h]
  exact ⟨_, Function.update_self .., rfl⟩

section Steps

variable {cfg : Config} {decodeString : Outgoing.DecodeString}
  {encodeToString : List UInt8 → String} {req : SendMessage.SendRequest} {s t : State}
  {ws : List Writer}

/-- A step that writes nothing and reports nothing. -/
theorem Tracked.silent {a : SendMessage.Action} (hs : Tracked req ws s) (hwriter : writer a = none)
    (hphase : inserted t.sys.phase = inserted s.sys.phase) (hreported : reported t = reported s)
    (htable : t.table = s.table) : Tracked req (ws ++ (writer a).toList) t := by
  rw [hwriter, Option.toList_none, List.append_nil]
  exact {
    inserted_iff := by rw [hphase]; exact hs.inserted_iff
    reports := by rw [hreported]; exact hs.reports
    absent := by rw [htable]; exact hs.absent
    row := by rw [htable, hreported]; exact hs.row }

/-- An update of a worker is the last word if the row is there, and lost if not. -/
theorem Tracked.update {now : Int} {status messageID errorMessage : String}
    (hs : Tracked req ws s) (hphase : inserted t.sys.phase = inserted s.sys.phase)
    (hstatus : status ≠ "queued") (hreported : reported t = reported s ++ [status])
    (htable : t.table = updateStatus s.table now req.jobID status messageID errorMessage) :
    Tracked req (ws ++ [.worker]) t where
  inserted_iff := by rw [hphase, hs.inserted_iff]; simp
  reports := by
    intro other hother
    rw [hreported] at hother
    rcases List.mem_append.mp hother with hold | hnew
    · exact hs.reports other hold
    · rwa [List.mem_singleton.mp hnew]
  absent := by
    intro habsent
    have hnone : s.table req.jobID = none := hs.absent (by simpa using habsent)
    rw [htable, updateStatus_absent hnone, hnone]
  row := by
    intro hpresent
    obtain ⟨row, hrow, -⟩ := hs.row (by simpa using hpresent)
    obtain ⟨row', hrow', hlast⟩ := updateStatus_present hrow now status messageID errorMessage
    refine ⟨row', by rw [htable, hrow'], .inl ⟨by simp, ?_⟩⟩
    rw [hreported, hlast]
    simp

/-- The insert finds no row, and leaves one that is queued. -/
theorem Tracked.insert {now : Int} {phoneNumber : String} (hs : Tracked req ws s)
    (hbefore : inserted s.sys.phase = false) (hafter : inserted t.sys.phase = true)
    (hreported : reported t = reported s)
    (htable : t.table = (create s.table now req.jobID "queued" phoneNumber).getD s.table) :
    Tracked req (ws ++ [.request]) t where
  inserted_iff := by simp [hafter]
  reports := by rw [hreported]; exact hs.reports
  absent := by simp
  row := by
    intro _
    have hnone : s.table req.jobID = none := by
      apply hs.absent
      intro hmem
      rw [← hs.inserted_iff, hbefore] at hmem
      cases hmem
    obtain ⟨table, row, hcreate, hrow, hqueued⟩ := create_absent hnone now "queued" phoneNumber
    refine ⟨row, ?_, .inr ⟨by simp, hqueued⟩⟩
    rw [htable, hcreate, Option.getD_some, hrow]

/-- A step of the request. -/
theorem step_request {mv : SendMessage.Move}
    (h : step cfg decodeString encodeToString req s (.request mv) = some t) :
    ∃ wire effects phase,
      SendMessage.Advanced cfg req s.sys.wire s.sys.phase mv wire effects phase ∧
      t.sys = { s.sys with wire := wire, log := s.sys.log ++ effects, phase := phase } ∧
      t.table = effects.foldl (requestEffect s.sys.worker.now) s.table := by
  simp only [step, SendMessage.step] at h
  cases hadvance : SendMessage.advance cfg req s.sys.wire s.sys.phase mv with
  | none =>
    rw [hadvance] at h
    cases h
  | some next =>
    obtain ⟨wire, effects, phase⟩ := next
    simp only [hadvance, List.drop_left, List.drop_length, List.map_nil, List.foldl_nil] at h
    cases h
    exact ⟨wire, effects, phase, SendMessage.advance_advanced hadvance, rfl, rfl⟩

/-- A step of the workers. -/
theorem step_worker {a : Outgoing.Action}
    (h : step cfg decodeString encodeToString req s (.worker a) = some t) :
    ∃ worker, Outgoing.Stepped decodeString (SendMessage.job encodeToString req) s.sys.worker a
        worker ∧
      t.sys = { s.sys with worker := worker } ∧
      t.table = ((worker.log.drop s.sys.worker.log.length).map Prod.snd).foldl
        (workerEffect req.jobID worker.now) s.table := by
  simp only [step, SendMessage.step] at h
  split at h
  · cases h
  next sys hsys =>
  split at hsys
  · split at hsys
    · cases hsys
    next worker hworker =>
    cases hsys
    simp only [List.drop_length, List.foldl_nil] at h
    cases h
    exact ⟨worker, Outgoing.step_stepped hworker, rfl, rfl⟩
  · cases hsys

/-- What a step of a delivery writes: nothing, or one status, which is not that
of the insert. -/
theorem worked_writes {job : Outgoing.OutgoingMessageJob} {now : Int} {i : Nat}
    {dedup dedup' : Option Queue.DedupCache} {phase phase' : Outgoing.Phase} {w : Outgoing.Work}
    {effects : List Outgoing.Effect}
    (h : Outgoing.Worked decodeString job now dedup phase w dedup' effects phase') :
    (writer (.worker (.work i w)) = none ∧
      (effects.map fun effect => (i, effect)).filterMap statusOf = [] ∧
      ∀ jobID now table, effects.foldl (workerEffect jobID now) table = table) ∨
    (writer (.worker (.work i w)) = some .worker ∧ ∃ status messageID errorMessage,
      effects = [.updateStatus status messageID errorMessage] ∧ status ≠ "queued") := by
  cases h with
  | duplicate | fresh | paced | stopped | undecodable | refused | sent | marked | notifySent
  | notifyFailed => exact .inl ⟨rfl, rfl, fun _ _ _ => rfl⟩
  | updateProcessing | updateCompleted | updateFailed =>
    exact .inr ⟨rfl, _, _, _, rfl, by decide⟩

theorem tracked_request {mv : SendMessage.Move} (hs : Tracked req ws s)
    (h : step cfg decodeString encodeToString req s (.request mv) = some t) :
    Tracked req (ws ++ (writer (.request mv)).toList) t := by
  obtain ⟨wire, effects, phase, hadvanced, hsys, htable⟩ := step_request h
  have hreported : reported t = reported s := by rw [reported, reported, hsys]
  have hafter : t.sys.phase = phase := by rw [hsys]
  generalize hbefore : s.sys.phase = before at hadvanced
  cases hadvanced with
  | created =>
    exact hs.insert (by rw [hbefore]; rfl) (by rw [hafter]; rfl) hreported htable
  | _ => exact hs.silent rfl (by rw [hafter, hbefore]; rfl) hreported htable

theorem tracked_worker {a : Outgoing.Action} (hs : Tracked req ws s)
    (h : step cfg decodeString encodeToString req s (.worker a) = some t) :
    Tracked req (ws ++ (writer (.worker a)).toList) t := by
  obtain ⟨worker, hstepped, hsys, htable⟩ := step_worker h
  have hphase : inserted t.sys.phase = inserted s.sys.phase := by rw [hsys]
  cases hstepped with
  | tick | deliver | checkOther | markOther =>
    refine hs.silent rfl hphase ?_ ?_
    · rw [reported, reported, hsys]
    · simpa using htable
  | @work i w phase phase' dedup effects hdelivery hworked =>
    simp only [List.drop_left, List.map_map, Function.comp_def, List.map_id'] at htable
    have hreported : reported t =
        reported s ++ (effects.map fun effect => (i, effect)).filterMap statusOf := by
      rw [reported, reported, hsys, ← List.filterMap_append]
    rcases worked_writes hworked with ⟨hwriter, hnone, hkeeps⟩ | ⟨hwriter, status, messageID,
      errorMessage, rfl, hstatus⟩
    · refine hs.silent hwriter hphase ?_ ?_
      · rw [hreported, hnone, List.append_nil]
      · rw [htable, hkeeps]
    · rw [hwriter]
      exact hs.update hphase hstatus hreported htable

theorem tracked_step {a : SendMessage.Action} (hs : Tracked req ws s)
    (h : step cfg decodeString encodeToString req s a = some t) :
    Tracked req (ws ++ (writer a).toList) t := by
  cases a with
  | request mv => exact tracked_request hs h
  | worker b => exact tracked_worker hs h
  | accept =>
    simp only [step, SendMessage.step] at h
    split at h
    · cases h
    next sys hsys =>
    split at hsys
    · cases hsys
      simp only [List.drop_length, List.map_nil, List.foldl_nil] at h
      cases h
      exact hs.silent rfl rfl rfl rfl
    · cases hsys

/-- By induction on the run: the row follows the writers of the schedule. -/
theorem tracked_run {as : List SendMessage.Action} (hs : Tracked req ws s)
    (hrun : Run (step cfg decodeString encodeToString req) (fun _ _ => True) s as t) :
    Tracked req (ws ++ writers as) t := by
  induction hrun generalizing ws with
  | nil => simpa [writers] using hs
  | @cons s u t a as _ hstep _ ih =>
    have hnext := ih (tracked_step hs hstep)
    rwa [List.append_assoc, ← writers_cons] at hnext

theorem tracked_init {now : Int} {table : JobTable} (hfresh : table req.jobID = none) :
    Tracked req [] (init cfg now table) where
  inserted_iff := by simp [init, SendMessage.init, inserted]
  reports := by simp [reported, init, SendMessage.init, Outgoing.init]
  absent := fun _ => hfresh
  row := by simp

end Steps

/-- Once both have finished, the row says what the workers have reported last
exactly if theirs is the last statement; else the insert has come after all
their updates, and the row stays queued. -/
theorem status_kept_iff (cfg : Config) (decodeString : Outgoing.DecodeString)
    (encodeToString : List UInt8 → String) (req : SendMessage.SendRequest) (now : Int)
    (table : JobTable) (as : List SendMessage.Action) (s : State)
    (hfresh : table req.jobID = none)
    (hrun : Run (step cfg decodeString encodeToString req) (fun _ _ => True)
      (init cfg now table) as s)
    (hfinished : Finished req s) :
    StatusKept req s ↔ (writers as).getLast? = some .worker := by
  have hs := tracked_run (tracked_init hfresh) hrun
  rw [List.nil_append] at hs
  have hinserted : inserted s.sys.phase = true := by
    rw [hfinished.request]
    rfl
  obtain ⟨row, hrow, hlast⟩ := hs.row (hs.inserted_iff.mp hinserted)
  constructor
  · rintro ⟨row', hrow', hstatus⟩
    rcases hlast with ⟨hworker, -⟩ | ⟨-, hqueued⟩
    · exact hworker
    · obtain rfl : row = row' := Option.some.inj (hrow.symm.trans hrow')
      exact absurd hqueued (hs.reports _ (List.mem_of_getLast? hstatus))
  · intro hworker
    rcases hlast with ⟨-, hstatus⟩ | ⟨hrequest, -⟩
    · exact ⟨row, hrow, hstatus⟩
    · rw [hworker] at hrequest
      cases hrequest

section Sample

/-- The job is accepted, and its publish confirmed. -/
def published : List SendMessage.Action :=
  [.request (.health true), .request (.publish .ok), .accept, .request (.confirm .acked)]

/-- A worker receives the job, sends it and reports. -/
def worked : List Outgoing.Action :=
  [.deliver 0, .work 0 .check] ++ Outgoing.sendsAfterCheck 0 ++
    [.work 0 .updateCompleted, .work 0 .mark, .work 0 .notifySent]

/-- The request inserts the row, and answers. -/
def answered : List SendMessage.Action := [.request .createJob, .request .notifyQueued]

/-- The state after a schedule of the sample. -/
def sampleEnd (as : List SendMessage.Action) : State :=
  final (step {} (fun _ => .ok []) (fun _ => "") SendMessage.sampleSend)
    (init {} 0 fun _ => none) as

def insertLast : List SendMessage.Action := published ++ worked.map .worker ++ answered

def workerLast : List SendMessage.Action := published ++ answered ++ worked.map .worker

/-- A sample has finished when its one delivery has. -/
theorem sample_finished {s : State} (hrequest : s.sys.phase = .done (.queued "job-1"))
    (hdone : s.sys.worker.deliveries 0 = some (.done .ok))
    (hothers : ∀ i, s.sys.worker.deliveries (i + 1) = none) (hreported : reported s ≠ []) :
    Finished SendMessage.sampleSend s where
  request := hrequest
  deliveries := by
    intro i phase hphase
    cases i with
    | zero =>
      rw [hdone] at hphase
      exact ⟨.ok, (Option.some.inj hphase).symm⟩
    | succ i =>
      rw [hothers] at hphase
      cases hphase
  reported := hreported

/-- A worker that is through with the job before the insert leaves it queued. -/
theorem insert_last_stays_queued :
    ¬ ∀ cfg decodeString encodeToString req now table as s, table req.jobID = none →
      Run (step cfg decodeString encodeToString req) (fun _ _ => True) (init cfg now table) as s →
      Finished req s → StatusKept req s := by
  intro hkept
  have hfinished : Finished SendMessage.sampleSend (sampleEnd insertLast) :=
    sample_finished (by decide +kernel) (by decide +kernel) (fun _ => rfl) (by decide +kernel)
  obtain ⟨row, hrow, hstatus⟩ := hkept {} (fun _ => .ok []) (fun _ => "") SendMessage.sampleSend 0
    (fun _ => none) insertLast _ rfl (Run.to_final_free (by decide +kernel)) hfinished
  have hqueued : ((sampleEnd insertLast).table "job-1").map MessageJob.status =
      some "queued" := by
    decide +kernel
  have hlast : (reported (sampleEnd insertLast)).getLast? = some "completed" := by
    decide +kernel
  have hrow' : (sampleEnd insertLast).table "job-1" = some row := hrow
  rw [hrow', Option.map_some] at hqueued
  have hboth : some "completed" = some "queued" := (hlast.symm.trans hstatus).trans hqueued
  exact absurd hboth (by decide)

/-- A worker that reports after the insert has its status kept. -/
theorem status_kept_iff_worker_last :
    StatusKept SendMessage.sampleSend (sampleEnd workerLast) ↔
      (writers workerLast).getLast? = some .worker :=
  status_kept_iff {} (fun _ => .ok []) (fun _ => "") SendMessage.sampleSend 0 (fun _ => none)
    workerLast _ rfl (Run.to_final_free (by decide +kernel))
    (sample_finished (by decide +kernel) (by decide +kernel) (fun _ => rfl) (by decide +kernel))

end Sample

end WhatsappGateway.JobStatus
