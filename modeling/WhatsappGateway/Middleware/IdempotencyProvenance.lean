import WhatsappGateway.Middleware.IdempotencyTakeover

/-!
Where a replayed response comes from. `complete` writes to whatever row its key
has, so the response of a slow request can land in a row that another request
inserted meanwhile. Both rows then hold the same hash, unless a request with
another body has inserted its row while the slow one was still in
`runAndRecord`: without such an insertion every replayed response was produced
for the hash it is replayed to, whatever the database, crashes, sweeps and
takeovers do.
-/

namespace WhatsappGateway.Idempotency

open Lib

/-- A handler run of a request with this key and hash has given this response. -/
def Produced (s : State) (key : Key) (hash : String) (status : Int) (body : String) : Prop :=
  ∃ j g, s.flights j = some g ∧ g.request = ⟨key, hash⟩ ∧
    g.phase = .done (.handled (.answered status body))

/-- The response stored in a row was produced for the row's own hash. -/
def RowProduced (s : State) (key : Key) (row : Row) : Prop :=
  ∃ status body, row.httpStatus = some status ∧ row.responseBody = some body ∧
    Produced s key row.requestHash status body

/-- No row is inserted while a request with a different hash is still in
`runAndRecord` for its key. -/
def InsertsUnderOwnHash (s : State) : Action → Prop
  | .move i (.insert _) => ∀ f, s.flights i = some f → s.table f.request.key = none →
      ∀ j g, s.flights j = some g → g.phase.owns = true →
        g.request.key = f.request.key → g.request.hash = f.request.hash
  | _ => True

/-- Every stored, read or replayed response was produced for the hash next to it. -/
structure Provenance (s : State) : Prop where
  owners : ∀ j g row, s.flights j = some g → g.phase.owns = true →
    s.table g.request.key = some row → row.requestHash = g.request.hash
  rows : ∀ key row, s.table key = some row → row.status = .completed → RowProduced s key row
  records : ∀ i f rec, s.flights i = some f → f.phase.readRecord = some rec →
    rec.status = .completed →
    Produced s f.request.key rec.requestHash rec.httpStatus rec.responseBody
  replies : ∀ i f status body, s.flights i = some f → f.phase = .done (.replayed status body) →
    Produced s f.request.key f.request.hash status body

section Provenance

variable {m : IdempotencyMiddleware} {sha256Hex : String → String} {s t : State} {a : Action}

theorem done_stays {j : Nat} {g : Flight} {reply : Reply} (hstep : step m sha256Hex s a = some t)
    (hg : s.flights j = some g) (hdone : g.phase = .done reply) : t.flights j = some g := by
  obtain ⟨g', hg', -, rfl | ⟨-, -, hlive⟩ | ⟨mv, -, hmoved⟩⟩ := flight_persists hstep hg
  · exact hg'
  · exact absurd hdone (hlive reply)
  · rw [hdone] at hmoved
    cases hmoved

theorem produced_step {key : Key} {hash : String} {status : Int} {body : String}
    (hstep : step m sha256Hex s a = some t) (h : Produced s key hash status body) :
    Produced t key hash status body := by
  obtain ⟨j, g, hg, hreq, hdone⟩ := h
  exact ⟨j, g, done_stays hstep hg hdone, hreq, hdone⟩

/-- The row that a move leaves has the hash of every owner that is left. -/
theorem owners_move {i j : Nat} {f g : Flight} {mv : Move} {table : Table} {phase : Phase}
    {row : Row} (hs : Provenance s) (hf : s.flights i = some f)
    (hmoved : Moved m s.now s.table f.request f.phase mv table phase)
    (hinserts : InsertsUnderOwnHash s (.move i mv))
    (hg : (({ s with table := table } : State).put i ⟨f.request, phase⟩).flights j = some g)
    (howns : g.phase.owns = true) (hrow : table g.request.key = some row) :
    row.requestHash = g.request.hash := by
  rcases State.put_flight hg with ⟨-, rfl⟩ | ⟨-, hg⟩
  · rcases hmoved.owns_cases howns with ⟨hfowns, hsame⟩ | ⟨-, -, createdAt, hpending⟩
    · subst hsame
      exact hs.owners i f row hf hfowns hrow
    · obtain rfl := Option.some.inj (hpending.symm.trans hrow)
      rfl
  · by_cases hkey : g.request.key = f.request.key
    · rw [hkey] at hrow
      rcases hmoved.row_cases hrow with hold | ⟨hnone, db, createdAt, rfl, -, rfl⟩ |
        ⟨old, status, body, -, -, hold, rfl⟩
      · exact hs.owners j g row hg howns (by rw [hkey]; exact hold)
      · exact (hinserts f hf hnone j g hg howns hkey).symm
      · exact hs.owners j g old hg howns (by rw [hkey]; exact hold)
    · rw [hmoved.frame hkey] at hrow
      exact hs.owners j g row hg howns hrow

theorem provenance_move {i : Nat} {f : Flight} {mv : Move} {table : Table} {phase : Phase}
    (hf : s.flights i = some f)
    (hmoved : Moved m s.now s.table f.request f.phase mv table phase)
    (hstep : step m sha256Hex s (.move i mv) =
      some (({ s with table := table } : State).put i ⟨f.request, phase⟩))
    (hinserts : InsertsUnderOwnHash s (.move i mv)) (hs : Provenance s) :
    Provenance (({ s with table := table } : State).put i ⟨f.request, phase⟩) := by
  constructor
  · intro j g row hg howns hrow
    exact owners_move hs hf hmoved hinserts hg howns hrow
  · intro key row hrow hcompleted
    replace hrow : table key = some row := hrow
    have hold (hrow : s.table key = some row) :
        RowProduced (({ s with table := table } : State).put i ⟨f.request, phase⟩) key row := by
      obtain ⟨status, body, hstatus, hbody, hproduced⟩ := hs.rows key row hrow hcompleted
      exact ⟨status, body, hstatus, hbody, produced_step hstep hproduced⟩
    by_cases hkey : key = f.request.key
    · subst hkey
      rcases hmoved.row_cases hrow with hkept | ⟨-, -, createdAt, -, -, rfl⟩ |
        ⟨old, status, body, hphase, hdone, hrowold, rfl⟩
      · exact hold hkept
      · cases hcompleted
      · have hhash : old.requestHash = f.request.hash :=
          hs.owners i f old hf (by rw [hphase]; rfl) hrowold
        refine ⟨status, body, rfl, rfl, i, _, State.put_same _ _ _, ?_, hdone⟩
        simp [Row.complete, hhash]
    · rw [hmoved.frame hkey] at hrow
      exact hold hrow
  · intro j g rec hg hrec hcompleted
    rcases State.put_flight hg with ⟨-, rfl⟩ | ⟨-, hg⟩
    · refine produced_step hstep ?_
      obtain ⟨req, old⟩ := f
      cases hmoved with
      | @loaded row hrow =>
        cases hrec
        obtain ⟨status, body, hstatus, hbody, hproduced⟩ := hs.rows _ row hrow hcompleted
        simpa [Row.scan, hstatus, hbody] using hproduced
      | unexpired _ =>
        cases hrec
        have hproduced := hs.records i _ rec hf rfl hcompleted
        exact hproduced
      | _ => cases hrec
    · exact produced_step hstep (hs.records j g rec hg hrec hcompleted)
  · intro j g status body hg hdone
    rcases State.put_flight hg with ⟨-, rfl⟩ | ⟨-, hg⟩
    · refine produced_step hstep ?_
      obtain ⟨req, old⟩ := f
      obtain rfl : phase = .done (.replayed status body) := hdone
      cases hmoved with
      | @replayed rec hhash hcompleted =>
        have hproduced := hs.records i _ rec hf rfl hcompleted
        rw [hhash] at hproduced
        exact hproduced
    · exact produced_step hstep (hs.replies j g status body hg hdone)

theorem provenance_put {i : Nat} {f : Flight} (hs : Provenance s)
    (hstep : step m sha256Hex s a = some (s.put i f)) (howns : f.phase.owns = false)
    (hread : f.phase.readRecord = none)
    (hreply : ∀ status body, f.phase ≠ .done (.replayed status body)) :
    Provenance (s.put i f) := by
  constructor
  · intro j g row hg hgowns hrow
    rcases State.put_flight hg with ⟨-, rfl⟩ | ⟨-, hg⟩
    · rw [howns] at hgowns
      cases hgowns
    · exact hs.owners j g row hg hgowns hrow
  · intro key row hrow hcompleted
    obtain ⟨status, body, hstatus, hbody, hproduced⟩ := hs.rows key row hrow hcompleted
    exact ⟨status, body, hstatus, hbody, produced_step hstep hproduced⟩
  · intro j g rec hg hrec hcompleted
    rcases State.put_flight hg with ⟨-, rfl⟩ | ⟨-, hg⟩
    · rw [hread] at hrec
      cases hrec
    · exact produced_step hstep (hs.records j g rec hg hrec hcompleted)
  · intro j g status body hg hdone
    rcases State.put_flight hg with ⟨-, rfl⟩ | ⟨-, hg⟩
    · exact absurd hdone (hreply status body)
    · exact produced_step hstep (hs.replies j g status body hg hdone)

/-- The step lemma of provenance. -/
theorem provenance_step (hstep : step m sha256Hex s a = some t)
    (hinserts : InsertsUnderOwnHash s a) (hs : Provenance s) : Provenance t := by
  cases step_stepped hstep with
  | tick _ => exact ⟨hs.owners, hs.rows, hs.records, hs.replies⟩
  | arrive _ _ => exact provenance_put hs hstep rfl rfl (by simp)
  | crash _ _ => exact provenance_put hs hstep rfl rfl (by simp)
  | move hf hmoved => exact provenance_move hf hmoved hstep hinserts hs
  | sweep _ =>
    refine ⟨?_, ?_, hs.records, hs.replies⟩
    · intro j g row hg howns hrow
      exact hs.owners j g row hg howns (sweep_some.mp hrow).1
    · intro key row hrow hcompleted
      exact hs.rows key row (sweep_some.mp hrow).1 hcompleted

theorem provenance_init (start : Int) : Provenance (init start) := by
  constructor
  · intro j g row hg
    cases hg
  · intro key row hrow
    cases hrow
  · intro i f rec hf
    cases hf
  · intro i f status body hf
    cases hf

end Provenance

/-- In every state of a guarded run, each replayed response was produced by a
handler run of a request with the key and the hash it is replayed to. -/
def ReplaysOwnHash (m : IdempotencyMiddleware) (sha256Hex : String → String)
    (guard : State → Action → Prop) : Prop :=
  ∀ start as s, Run (step m sha256Hex) guard (init start) as s →
    ∀ i f status body, s.flights i = some f → f.phase = .done (.replayed status body) →
      Produced s f.request.key f.request.hash status body

/-- The run lemma of provenance. -/
theorem replays_own_hash (m : IdempotencyMiddleware) (sha256Hex : String → String) :
    ReplaysOwnHash m sha256Hex InsertsUnderOwnHash := by
  intro start as s hrun i f status body hf hreplayed
  have hs := hrun.invariant (provenance_init start)
    fun _ _ _ hinserts hstep hs => provenance_step hstep hinserts hs
  exact hs.replies i f status body hf hreplayed

section Foreign

/-- Only requests that have arrived are in flight. -/
theorem arrived_of_flight {m : IdempotencyMiddleware} {sha256Hex : String → String}
    {guard : State → Action → Prop} {s t : State} {as : List Action} {j : Nat} {g : Flight}
    (hrun : Run (step m sha256Hex) guard s as t) (hg : t.flights j = some g) :
    (s.flights j).isSome ∨ ∃ c, .arrive j c ∈ as := by
  induction hrun with
  | nil s => exact .inl (by simp [hg])
  | @cons s next t a as _ hstep _ ih =>
    rcases ih hg with hnext | ⟨c, hc⟩
    · obtain ⟨g', hg'⟩ := Option.isSome_iff_exists.mp hnext
      rcases flight_cases hstep hg' with hold | ⟨-, -, c, rfl⟩ | ⟨f, hf, -⟩ | ⟨f, _, -, hf, -⟩
      · exact .inl (by simp [hold])
      · exact .inr ⟨c, by simp⟩
      · exact .inl (by simp [hf])
      · exact .inl (by simp [hf])
    · exact .inr ⟨c, by simp [hc]⟩

/-- Request 0 is slow; request 1 takes its key over, and request 2 inserts a row
for another body. The response of request 0 completes that row, and request 3
gets it. -/
def slowWinner : List Action :=
  arriveAndInsert 0 "a" ++ [.tick (31 * Duration.second)] ++ arriveAndInsert 1 "a" ++
    readAndJudge 1 ++ [.move 1 (.takeOver .ok)] ++ arriveAndInsert 2 "b" ++
    answerAndRecord 0 "sent a" ++ arriveAndInsert 3 "b" ++ readAndJudge 3

/-- Without crashes or database errors, a request gets the response to another
body. -/
theorem slow_winner_replayed_to_other_body :
    ¬ ∀ m sha256Hex, ReplaysOwnHash m sha256Hex fun s a => NoDbError s a ∧ NoCrash s a := by
  intro hown
  let m := newIdempotencyMiddleware {}
  let s := final (step m id) (init 0) slowWinner
  have hrun : Run (step m id) (fun s a => NoDbError s a ∧ NoCrash s a) (init 0) slowWinner s :=
    Run.to_final (by decide +kernel) (by decide +kernel)
  have hreplay : s.flights 3 = some ⟨sampleRequest "b", .done (.replayed 200 "sent a")⟩ := by
    decide +kernel
  obtain ⟨j, g, hg, hreq, hdone⟩ := hown m id 0 slowWinner s hrun 3 _ 200 "sent a" hreplay rfl
  have hid : j ∈ [0, 1, 2, 3] := by
    rcases arrived_of_flight hrun hg with habsent | ⟨c, hc⟩
    · cases habsent
    · simp [slowWinner, arriveAndInsert, readAndJudge, answerAndRecord] at hc
      grind
  have hother : ∀ j ∈ [0, 1, 2, 3], ∀ g ∈ s.flights j, g.request = sampleRequest "b" →
      g.phase ≠ .done (.handled (.answered 200 "sent a")) := by decide +kernel
  exact hother j hid g hg hreq hdone

end Foreign

end WhatsappGateway.Idempotency
