import WhatsappGateway.Middleware.IdempotencySettled

/-!
Who may run the handler. `replayOrReject` lets a request proceed on three
grounds: its row vanished, expired, or was left pending for too long. In none
of them does the request insert a row of its own, so it runs as nobody: a third
request finds the key free, and the response is never recorded. These three
branches, an error of the database, and a sweep that outlives a winner are the
only ways to run the handler without owning the key.
-/

namespace WhatsappGateway.Idempotency

open Lib

/-- The record a request has read and is still judging. -/
def Phase.readRecord : Phase → Option IdempotencyRecord
  | .loaded rec => some rec
  | .unexpired rec => some rec
  | _ => none

/-- What a losing request reads is there, is not expired, and is not abandoned. -/
def FindsLiveRow (m : IdempotencyMiddleware) (s : State) : Action → Prop
  | .move i (.get _) => ∀ f ∈ s.flights i, (s.table f.request.key).isSome
  | .move i .testExpired => ∀ f ∈ s.flights i, ∀ rec ∈ f.phase.readRecord,
      s.now - rec.createdAt ≤ m.ttl
  | .move i .judge => ∀ f ∈ s.flights i, ∀ rec ∈ f.phase.readRecord,
      rec.requestHash = f.request.hash → rec.status = .pending →
      s.now - rec.createdAt ≤ m.pendingTimeout
  | _ => True

/-- No request deletes a row of `replayOrReject`, and none is in the handler
without owning its key. -/
def NoStray (s : State) : Prop :=
  ∀ i f, s.flights i = some f → f.phase ≠ .deleting ∧ ∀ since, f.phase ≠ .running false since

theorem NoStray.noTakeover {s : State} (h : NoStray s) : NoTakeover s :=
  fun i f hf => (h i f hf).1

theorem noStray_put {s : State} {i : Nat} {f : Flight} (hs : NoStray s)
    (hdeleting : f.phase ≠ .deleting) (hstray : ∀ since, f.phase ≠ .running false since) :
    NoStray (s.put i f) := by
  intro j g hg
  rcases State.put_flight hg with ⟨rfl, rfl⟩ | ⟨-, hg⟩
  · exact ⟨hdeleting, hstray⟩
  · exact hs j g hg

theorem noStray_step {m : IdempotencyMiddleware} {sha256Hex : String → String} {s t : State}
    {a : Action} (hstep : step m sha256Hex s a = some t) (hdb : NoDbError s a)
    (hfinds : FindsLiveRow m s a) (hs : NoStray s) : NoStray t := by
  cases step_stepped hstep with
  | tick _ => exact hs
  | sweep _ => exact hs
  | arrive _ _ => exact noStray_put hs (by simp) (by simp)
  | crash _ _ => exact noStray_put hs (by simp) (by simp)
  | @move i f mv table phase hf hmoved =>
    suffices h : phase ≠ .deleting ∧ ∀ since, phase ≠ .running false since from
      noStray_put (s := { s with table := table }) hs h.1 h.2
    obtain ⟨req, old⟩ := f
    cases hmoved with
    | insertFailed => cases hdb
    | insertFailedApplied => cases hdb
    | getFailed => cases hdb
    | vanished hnone =>
      have hsome := hfinds _ hf
      simp [hnone] at hsome
    | expired hlate => exact absurd (hfinds _ hf _ rfl) (Int.not_le.mpr hlate)
    | abandoned hhash hpending hlate =>
      exact absurd (hfinds _ hf _ rfl hhash hpending) (Int.not_le.mpr hlate)
    | tookOver => exact absurd rfl (hs i _ hf).1
    | _ => simp [reusedKey, inProgress]

/-- The steps under which nobody enters the handler without owning the key. -/
def Orderly (m : IdempotencyMiddleware) (s : State) (a : Action) : Prop :=
  NoDbError s a ∧ FindsLiveRow m s a ∧ SparesOwners s a

section Orderly

variable {m : IdempotencyMiddleware} {sha256Hex : String → String} {start : Int}
  {as : List Action} {s t : State}

theorem orderly_step {a : Action} (hguard : Orderly m s a)
    (hstep : step m sha256Hex s a = some t) (hs : Owned s ∧ NoStray s) :
    Owned t ∧ NoStray t :=
  ⟨owned_step hstep hguard.2.2 hs.1, noStray_step hstep hguard.1 hguard.2.1 hs.2⟩

theorem orderly_run (hrun : Run (step m sha256Hex) (Orderly m) (init start) as s) :
    Owned s ∧ NoStray s := by
  refine hrun.invariant ⟨owned_init start, ?_⟩ fun s a t hg hstep hs => orderly_step hg hstep hs
  intro i f hf
  cases hf

/-- Two requests in the handler with one key are one request. -/
def OneHandler (s : State) : Prop :=
  ∀ i j f g owner owner' since since', s.flights i = some f → s.flights j = some g →
    f.phase = .running owner since → g.phase = .running owner' since' →
    f.request.key = g.request.key → i = j

theorem oneHandler_of_owned (howned : Owned s) (hstray : NoStray s) : OneHandler s := by
  have howner : ∀ i f owner since, s.flights i = some f → f.phase = .running owner since →
      f.phase.owns = true := by
    intro i f owner since hf hphase
    cases owner with
    | true => rw [hphase]; rfl
    | false => exact absurd hphase ((hstray i f hf).2 since)
  intro i j f g owner owner' since since' hf hg hphase hphase' hkey
  exact howned.unique i j f g hf hg (howner i f owner since hf hphase)
    (howner j g owner' since' hg hphase') hkey

end Orderly

/-- In this step request `i` enters the handler. -/
def EntersHandler (s t : State) (i : Nat) : Prop :=
  (∃ g owner since, t.flights i = some g ∧ g.phase = .running owner since) ∧
    ∀ f owner since, s.flights i = some f → f.phase ≠ .running owner since

/-- In this step request `i` becomes the owner of its key: the pending row it
now runs under is its own and has just been inserted. -/
def BecomesOwner (s t : State) (i : Nat) : Prop :=
  ∃ g createdAt, t.flights i = some g ∧ g.phase.owns = true ∧
    s.table g.request.key = none ∧
    t.table g.request.key = some (pendingRow g.request.hash createdAt)

/-- The ownership contract of the middleware in the runs of a guard. -/
structure OwnershipLaw (m : IdempotencyMiddleware) (sha256Hex : String → String)
    (guard : State → Action → Prop) : Prop where
  /-- Who enters the handler has just inserted the pending row of its key. -/
  enters : ∀ start as s a t i, Run (step m sha256Hex) guard (init start) as s →
    guard s a → step m sha256Hex s a = some t → EntersHandler s t i → BecomesOwner s t i
  /-- Of any number of racing requests at most one is in the handler. -/
  single : ∀ start as s, Run (step m sha256Hex) guard (init start) as s → OneHandler s
  /-- A 2xx response is recorded, and within the TTL of its row every later
  request with the same key and hash stays out of the handler and gets it. -/
  replays : ∀ start as s i f status body t,
    Run (step m sha256Hex) guard (init start) as s → s.flights i = some f →
    f.phase = .recording (.answered status body) →
    (HandlerResult.answered status body).is2xx = true →
    guard s (.move i (.record .ok)) →
    step m sha256Hex s (.move i (.record .ok)) = some t →
    ∃ row, t.table f.request.key = some row ∧ row.status = .completed ∧
      row.requestHash = f.request.hash ∧ row.httpStatus = some status ∧
      row.responseBody = some body ∧
      ∀ bs u, Run (step m sha256Hex) (fun s a => guard s a ∧ s.now - row.createdAt ≤ m.ttl)
        t bs u →
      ∀ j g, t.flights j = none → u.flights j = some g → g.request = f.request →
        (∀ owner since, g.phase ≠ .running owner since) ∧
        ∀ reply, g.phase = .done reply → reply = .replayed status body

theorem Moved.enters_owner {m : IdempotencyMiddleware} {now : Int} {table table' : Table}
    {req : Request} {phase : Phase} {mv : Move} {since : Int}
    (h : Moved m now table req phase mv table' (.running true since)) :
    table req.key = none ∧
      ∃ createdAt, table' req.key = some (pendingRow req.hash createdAt) := by
  cases h with
  | @inserted createdAt hnone => exact ⟨hnone, createdAt, by simp⟩

/-- Whoever enters the handler in an orderly run is the owner of a row it has
just inserted; nobody else is then in the handler for that key; and the 2xx
response of an owner is what later requests of the same hash get. -/
theorem orderly_runs_own_their_key (m : IdempotencyMiddleware)
    (sha256Hex : String → String) : OwnershipLaw m sha256Hex (Orderly m) := by
  constructor
  · intro start as s a t i hrun hguard hstep henters
    obtain ⟨⟨g, owner, since, hg, hphase⟩, hfresh⟩ := henters
    have hstray := (orderly_step hguard hstep (orderly_run hrun)).2
    obtain rfl : owner = true := by
      cases owner with
      | true => rfl
      | false => exact absurd hphase ((hstray i g hg).2 since)
    rcases flight_cases hstep hg with hold | ⟨-, harrived, -⟩ | ⟨f, -, -, rfl⟩ | hmove
    · exact absurd hphase (hfresh g true since hold)
    · rw [hphase] at harrived
      cases harrived
    · cases hphase
    · obtain ⟨f, mv, -, hf, hreq, hmoved⟩ := hmove
      rw [hphase] at hmoved
      obtain ⟨hnone, createdAt, hrow⟩ := hmoved.enters_owner
      rw [← hreq] at hnone hrow
      exact ⟨g, createdAt, hg, by rw [hphase]; rfl, hnone, hrow⟩
  · intro start as s hrun
    have ⟨howned, hstray⟩ := orderly_run hrun
    exact oneHandler_of_owned howned hstray
  · intro start as s i f status body t hrun hf hphase h2xx hguard hstep
    have hs := orderly_run hrun
    obtain ⟨row, hcompleted, hhash, hstatus, hbody, hsettled⟩ :=
      recorded_settled hs.1 hf hphase h2xx hstep
    refine ⟨row, hsettled.kept, hcompleted, hhash, hstatus, hbody, ?_⟩
    intro bs u hlater j g habsent hg hreq
    have hlater' := hlater.strengthen (orderly_step hguard hstep hs)
      fun s a t hg hstep hs => orderly_step hg.1 hstep hs
    have hlate := (settled_run hlater' (fun s a hg =>
      ⟨hg.1.1.1, hg.2.2.noTakeover, hg.1.2⟩) hcompleted hsettled).late j g
      (by simp [habsent]) hg (by rw [hreq])
    constructor
    · intro owner since hrunning
      rw [hrunning] at hlate
      exact hlate
    · intro reply hdone
      rw [hdone] at hlate
      have hreply : reply = answerFrom row g.request.hash := hlate
      simpa [answerFrom, hreq, hhash, Row.scan, hstatus, hbody] using hreply

section Race

/-- A keyed send, the blank in front of its key trimmed by `trimHeader`. -/
def sampleSend (body : String) : HttpRequest where
  method := "POST"
  path := "/message/text"
  body := body
  idempotencyKey := " k1"
  phoneNumber := some "628111"

/-- Its key and, with the identity for a digest, its hash. -/
def sampleRequest (body : String) : Request :=
  ⟨⟨"628111", "k1"⟩, "POST\n/message/text\n" ++ body⟩

/-- Request `i` arrives and runs its INSERT. -/
def arriveAndInsert (i : Nat) (body : String) : List Action :=
  [.arrive i (sampleSend body), .move i .stamp, .move i (.insert .ok)]

/-- Request `i`, having met a row, reads it and judges it. -/
def readAndJudge (i : Nat) : List Action :=
  [.move i (.get .ok), .move i .testExpired, .move i .judge]

/-- Request `i` returns from the handler with 200 and records its response. -/
def answerAndRecord (i : Nat) (body : String) : List Action :=
  [.move i (.next (.answered 200 body)), .move i (.record .ok)]

/-- A winner crashes; 31 seconds later two retries find its row abandoned, and
both delete it and run the handler. -/
def racingRetries : List Action :=
  arriveAndInsert 0 "a" ++ [.crash 0, .tick (31 * Duration.second)] ++
    arriveAndInsert 1 "a" ++ readAndJudge 1 ++ arriveAndInsert 2 "a" ++ readAndJudge 2 ++
    [.move 1 (.takeOver .ok), .move 2 (.takeOver .ok)]

/-- Without an error of the database, a crash and two takeovers put two retries
in the handler at once. -/
theorem racing_retries_both_run :
    ¬ ∀ m sha256Hex, OwnershipLaw m sha256Hex NoDbError := by
  intro hlaw
  let m := newIdempotencyMiddleware {}
  let s := final (step m id) (init 0) racingRetries
  have hrun : Run (step m id) NoDbError (init 0) racingRetries s :=
    Run.to_final (by decide +kernel) (by decide +kernel)
  have hfirst : s.flights 1 =
      some ⟨sampleRequest "a", .running false (31 * Duration.second)⟩ := by decide +kernel
  have hsecond : s.flights 2 =
      some ⟨sampleRequest "a", .running false (31 * Duration.second)⟩ := by decide +kernel
  have heq := (hlaw m id).single 0 racingRetries s hrun 1 2 _ _ _ _ _ _
    hfirst hsecond rfl rfl rfl
  cases heq

/-- Neither a sweep nor a takeover. -/
def RemovesNothing : Action → Bool
  | .sweep _ => false
  | .move _ (.takeOver _) => false
  | _ => true

theorem sparesOwners_of_removesNothing {s : State} {a : Action}
    (h : RemovesNothing a = true) : SparesOwners s a := by
  unfold RemovesNothing at h
  unfold SparesOwners
  split <;> simp_all

instance FindsLiveRow.decidable (m : IdempotencyMiddleware) (s : State) :
    ∀ a, Decidable (FindsLiveRow m s a)
  | .move i (.get _) =>
    inferInstanceAs (Decidable (∀ f ∈ s.flights i, (s.table f.request.key).isSome))
  | .move i .testExpired =>
    inferInstanceAs (Decidable (∀ f ∈ s.flights i, ∀ rec ∈ f.phase.readRecord,
      s.now - rec.createdAt ≤ m.ttl))
  | .move i .judge =>
    inferInstanceAs (Decidable (∀ f ∈ s.flights i, ∀ rec ∈ f.phase.readRecord,
      rec.requestHash = f.request.hash → rec.status = .pending →
      s.now - rec.createdAt ≤ m.pendingTimeout))
  | .move _ .stamp => inferInstanceAs (Decidable True)
  | .move _ (.insert _) => inferInstanceAs (Decidable True)
  | .move _ (.takeOver _) => inferInstanceAs (Decidable True)
  | .move _ (.next _) => inferInstanceAs (Decidable True)
  | .move _ (.record _) => inferInstanceAs (Decidable True)
  | .tick _ => inferInstanceAs (Decidable True)
  | .arrive _ _ => inferInstanceAs (Decidable True)
  | .crash _ => inferInstanceAs (Decidable True)
  | .sweep _ => inferInstanceAs (Decidable True)

theorem orderly_of_removesNothing {m : IdempotencyMiddleware} {s : State} {a : Action}
    (h : NoDbError s a ∧ FindsLiveRow m s a ∧ RemovesNothing a = true) : Orderly m s a :=
  ⟨h.1, h.2.1, sparesOwners_of_removesNothing h.2.2⟩

/-- A winner that has answered 200 and a retry that arrives afterwards. -/
theorem orderly_retry_replays :
    let m := newIdempotencyMiddleware {}
    let s := final (step m id) (init 0)
      (arriveAndInsert 0 "a" ++ [.move 0 (.next (.answered 200 "sent"))])
    let t := final (step m id) s [.move 0 (.record .ok)]
    let u := final (step m id) t (arriveAndInsert 1 "a" ++ readAndJudge 1)
    ∃ reply, u.flights 1 = some ⟨sampleRequest "a", .done reply⟩ ∧
      reply = .replayed 200 "sent" := by
  intro m s t u
  have hrun : Run (step m id) (Orderly m) (init 0)
      (arriveAndInsert 0 "a" ++ [.move 0 (.next (.answered 200 "sent"))]) s :=
    (Run.to_final (by decide +kernel) (by decide +kernel)).mono
      fun _ _ => orderly_of_removesNothing
  obtain ⟨row, hrow, -, -, -, -, hlater⟩ := (orderly_runs_own_their_key m id).replays 0 _ s 0
    ⟨sampleRequest "a", .recording (.answered 200 "sent")⟩ 200 "sent" t hrun
    (by decide +kernel) rfl rfl ⟨rfl, trivial, trivial⟩ (by rfl)
  obtain rfl := Option.some.inj (hrow.symm.trans (show t.table (sampleRequest "a").key =
    some ((pendingRow (sampleRequest "a").hash 0).complete 200 "sent") by decide +kernel))
  have hrest : Run (step m id) (fun s a => (NoDbError s a ∧ FindsLiveRow m s a ∧
      RemovesNothing a = true) ∧ s.now - 0 ≤ m.ttl) t
      (arriveAndInsert 1 "a" ++ readAndJudge 1) u :=
    Run.to_final (by decide +kernel) (by decide +kernel)
  have hrest' := hrest.mono fun _ _ h => And.imp_left orderly_of_removesNothing h
  obtain ⟨reply, hdone⟩ :
      ∃ reply, u.flights 1 = some ⟨sampleRequest "a", .done reply⟩ :=
    ⟨.replayed 200 "sent", by decide +kernel⟩
  exact ⟨reply, hdone, (hlater _ u hrest' 1 _ (by decide +kernel) hdone rfl).2 reply rfl⟩

end Race

end WhatsappGateway.Idempotency
