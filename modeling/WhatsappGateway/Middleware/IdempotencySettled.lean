import WhatsappGateway.Middleware.IdempotencyOwners

/-!
What happens after a row has been completed. As long as no request takes the
key over and the row is within the TTL, the row stays as it is, nobody owns its
key, and every request that arrives later is answered from it: its own phases
are fixed, up to the reply, by the row.
-/

namespace WhatsappGateway.Idempotency

open Lib

/-- How the SQL statement of a move ends. -/
def Move.db : Move → DbOutcome
  | .insert db => db
  | .get db => db
  | .takeOver db => db
  | .record db => db
  | _ => .ok

def NoDbError (_ : State) : Action → Prop
  | .move _ mv => mv.db = .ok
  | _ => True

def NoCrash (_ : State) : Action → Prop
  | .crash _ => False
  | _ => True

instance NoDbError.decidable (s : State) : ∀ a, Decidable (NoDbError s a)
  | .move _ mv => inferInstanceAs (Decidable (mv.db = .ok))
  | .tick _ => inferInstanceAs (Decidable True)
  | .arrive _ _ => inferInstanceAs (Decidable True)
  | .crash _ => inferInstanceAs (Decidable True)
  | .sweep _ => inferInstanceAs (Decidable True)

instance NoCrash.decidable (s : State) : ∀ a, Decidable (NoCrash s a)
  | .crash _ => inferInstanceAs (Decidable False)
  | .tick _ => inferInstanceAs (Decidable True)
  | .arrive _ _ => inferInstanceAs (Decidable True)
  | .move _ _ => inferInstanceAs (Decidable True)
  | .sweep _ => inferInstanceAs (Decidable True)

/-- No request is about to delete a row it found expired or abandoned. -/
def NoTakeover (s : State) : Prop :=
  ∀ i f, s.flights i = some f → f.phase ≠ .deleting

/-- The reply of `replayOrReject` to a request of a given hash when it reads a
completed, unexpired row. -/
def answerFrom (row : Row) (hash : String) : Reply :=
  if row.requestHash ≠ hash then reusedKey
  else .replayed row.scan.httpStatus row.scan.responseBody

/-- Where a request can be that arrived after its row was completed. -/
def LatePhase (row : Row) (hash : String) : Phase → Prop
  | .arrived => True
  | .inserting _ => True
  | .conflicted => True
  | .crashed => True
  | .loaded rec => rec = row.scan
  | .unexpired rec => rec = row.scan
  | .done reply => reply = answerFrom row hash
  | .deleting => False
  | .running _ _ => False
  | .recording _ => False

/-- One move of a late request. -/
theorem latePhase_moved {m : IdempotencyMiddleware} {now : Int} {table table' : Table}
    {req : Request} {phase phase' : Phase} {mv : Move} {row : Row}
    (h : Moved m now table req phase mv table' phase') (hdb : mv.db = .ok)
    (hrow : table req.key = some row) (hcompleted : row.status = .completed)
    (hage : now - row.createdAt ≤ m.ttl) (hlate : LatePhase row req.hash phase) :
    LatePhase row req.hash phase' := by
  cases h with
  | inserted hnone => rw [hnone] at hrow; cases hrow
  | vanished hnone => rw [hnone] at hrow; cases hrow
  | insertFailed => cases hdb
  | insertFailedApplied => cases hdb
  | getFailed => cases hdb
  | loaded hread =>
    rw [hrow] at hread
    cases hread
    exact rfl
  | @expired rec hexpired =>
    obtain rfl : rec = row.scan := hlate
    exact absurd hage (Int.not_le.mpr hexpired)
  | unexpired _ => exact hlate
  | @reused rec hhash =>
    obtain rfl : rec = row.scan := hlate
    have hne : row.requestHash ≠ req.hash := hhash
    simp [LatePhase, answerFrom, hne]
  | @abandoned rec _ hpending _ =>
    obtain rfl : rec = row.scan := hlate
    exact absurd (hpending.symm.trans hcompleted) (by decide)
  | @waiting rec _ hpending _ =>
    obtain rfl : rec = row.scan := hlate
    exact absurd (hpending.symm.trans hcompleted) (by decide)
  | @replayed rec hhash _ =>
    obtain rfl : rec = row.scan := hlate
    have heq : row.requestHash = req.hash := hhash
    simp [LatePhase, answerFrom, heq]
  | tookOver => exact hlate.elim
  | ownerReturned => exact hlate.elim
  | strayReturned => exact hlate.elim
  | recorded => exact hlate.elim
  | stamped => trivial
  | conflicted _ => trivial

/-- The row of `key` is `row`, nobody owns the key, and the requests that are
not `known` are late. -/
structure Settled (key : Key) (row : Row) (known : Nat → Prop) (s : State) : Prop where
  kept : s.table key = some row
  ownerless : ∀ j g, s.flights j = some g → g.request.key = key → g.phase.owns = false
  late : ∀ j g, ¬ known j → s.flights j = some g → g.request.key = key →
    LatePhase row g.request.hash g.phase

section Settled

variable {m : IdempotencyMiddleware} {sha256Hex : String → String} {key : Key} {row : Row}
  {known : Nat → Prop} {s t : State}

theorem settled_put {i : Nat} {f : Flight} (hs : Settled key row known s)
    (howns : f.phase.owns = false) (hlate : LatePhase row f.request.hash f.phase) :
    Settled key row known (s.put i f) := by
  refine ⟨hs.kept, ?_, ?_⟩
  · intro j g hg hkey
    rcases State.put_flight hg with ⟨rfl, rfl⟩ | ⟨-, hg⟩
    · exact howns
    · exact hs.ownerless j g hg hkey
  · intro j g hj hg hkey
    rcases State.put_flight hg with ⟨rfl, rfl⟩ | ⟨-, hg⟩
    · exact hlate
    · exact hs.late j g hj hg hkey

theorem settled_move {i : Nat} {f : Flight} {mv : Move} {table : Table} {phase : Phase}
    (hs : Settled key row known s) (hf : s.flights i = some f)
    (hmoved : Moved m s.now s.table f.request f.phase mv table phase) (hdb : mv.db = .ok)
    (htake : NoTakeover s) (hcompleted : row.status = .completed)
    (hage : s.now - row.createdAt ≤ m.ttl) :
    Settled key row known (({ s with table := table } : State).put i ⟨f.request, phase⟩) := by
  have hrow : table key = some row := by
    by_cases hkey : key = f.request.key
    · subst hkey
      exact hmoved.keeps_row (hs.ownerless i f hf rfl) (htake i f hf) hs.kept
    · rw [hmoved.frame hkey]
      exact hs.kept
  refine ⟨hrow, ?_, ?_⟩
  · intro j g hg hkey
    rcases State.put_flight hg with ⟨rfl, rfl⟩ | ⟨-, hg⟩
    · by_contra howns
      simp only [Bool.not_eq_false] at howns
      rcases hmoved.owns_cases howns with ⟨hfowns, -⟩ | ⟨-, hnone, -⟩
      · rw [hs.ownerless j f hf hkey] at hfowns
        cases hfowns
      · have hsome := hs.kept
        rw [← hkey, hnone] at hsome
        cases hsome
    · exact hs.ownerless j g hg hkey
  · intro j g hj hg hkey
    rcases State.put_flight hg with ⟨rfl, rfl⟩ | ⟨-, hg⟩
    · have hread : s.table f.request.key = some row := by
        have hsome := hs.kept
        rwa [← hkey] at hsome
      exact latePhase_moved hmoved hdb hread hcompleted hage (hs.late j f hj hf hkey)
    · exact hs.late j g hj hg hkey

theorem settled_step {a : Action} (hstep : step m sha256Hex s a = some t)
    (hdb : NoDbError s a) (htake : NoTakeover s) (hcompleted : row.status = .completed)
    (hage : s.now - row.createdAt ≤ m.ttl) (hs : Settled key row known s) :
    Settled key row known t := by
  cases step_stepped hstep with
  | tick _ => exact ⟨hs.kept, hs.ownerless, hs.late⟩
  | arrive _ _ => exact settled_put hs rfl trivial
  | move hf hmoved => exact settled_move hs hf hmoved hdb htake hcompleted hage
  | crash _ _ => exact settled_put hs rfl trivial
  | @sweep cutoff hcutoff =>
    refine ⟨sweep_some.mpr ⟨hs.kept, ?_⟩, hs.ownerless, hs.late⟩
    omega

/-- Every request that arrives after the row was completed is answered from the
row, and none of them enters the handler. -/
theorem settled_run {guard : State → Action → Prop} {as : List Action}
    (hrun : Run (step m sha256Hex) guard s as t)
    (hguard : ∀ s a, guard s a →
      NoDbError s a ∧ NoTakeover s ∧ s.now - row.createdAt ≤ m.ttl)
    (hcompleted : row.status = .completed) (hs : Settled key row known s) :
    Settled key row known t :=
  hrun.invariant hs fun s a _ hg hstep hsettled =>
    have ⟨hdb, htake, hage⟩ := hguard s a hg
    settled_step hstep hdb htake hcompleted hage hsettled

end Settled

/-- What `record` leaves for a run that answered 2xx: the owner's own row, now
completed with its response. -/
theorem recorded_settled {m : IdempotencyMiddleware} {sha256Hex : String → String}
    {s t : State} {i : Nat} {f : Flight} {status : Int} {body : String}
    (howned : Owned s) (hf : s.flights i = some f)
    (hphase : f.phase = .recording (.answered status body))
    (h2xx : (HandlerResult.answered status body).is2xx = true)
    (hstep : step m sha256Hex s (.move i (.record .ok)) = some t) :
    ∃ row, row.status = .completed ∧ row.requestHash = f.request.hash ∧
      row.httpStatus = some status ∧ row.responseBody = some body ∧
      Settled f.request.key row (fun j => t.flights j ≠ none) t := by
  obtain ⟨old, hold, -, hhash⟩ := howned.row i f hf (by rw [hphase]; rfl)
  have hstatus : status ≥ 200 ∧ status < 300 := by
    simpa [HandlerResult.is2xx] using h2xx
  cases step_stepped hstep with
  | @move i f' mv table phase hf' hmoved =>
    obtain rfl : f = f' := Option.some.inj (hf.symm.trans hf')
    rw [hphase] at hmoved
    cases hmoved with
    | recorded =>
      refine ⟨old.complete status body, rfl, hhash, rfl, rfl, ?_, ?_, ?_⟩
      · simp [DbOutcome.apply, recordResult, hstatus, complete, hold]
      · intro j g hg hkey
        rcases State.put_flight hg with ⟨rfl, rfl⟩ | ⟨hji, hg⟩
        · rfl
        · by_contra howns
          simp only [Bool.not_eq_false] at howns
          exact hji (howned.unique j i g f hg hf howns (by rw [hphase]; rfl) hkey)
      · intro j g hj hg
        rw [hg] at hj
        simp at hj

end WhatsappGateway.Idempotency
