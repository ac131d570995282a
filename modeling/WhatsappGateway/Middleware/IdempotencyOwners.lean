import WhatsappGateway.Lib.Run
import WhatsappGateway.Middleware.Idempotency

/-!
What a step of the idempotency middleware can do, and the ownership invariant.
A request owns its key from the INSERT that created the pending row until
`runAndRecord` has completed or deleted the row. Ownership is not written in
the table: it survives exactly as long as nobody else removes the row. That is
the guard `SparesOwners`; under it every owner finds its own pending row and no
key has two owners, whatever the database, the clock and crashes do.
-/

namespace WhatsappGateway.Idempotency

open Lib

/-- Everything a move of a request can do: the table and the phase it leads to
from a given phase. -/
inductive Moved (m : IdempotencyMiddleware) (now : Int) (table : Table) (req : Request) :
    Phase → Move → Table → Phase → Prop where
  | stamped : Moved m now table req .arrived .stamp table (.inserting now)
  | inserted {createdAt} : table req.key = none →
      Moved m now table req (.inserting createdAt) (.insert .ok)
        (Function.update table req.key (some (pendingRow req.hash createdAt)))
        (.running true now)
  | conflicted {createdAt row} : table req.key = some row →
      Moved m now table req (.inserting createdAt) (.insert .ok) table .conflicted
  | insertFailed {createdAt} :
      Moved m now table req (.inserting createdAt) (.insert (.failed false)) table
        (.running false now)
  | insertFailedApplied {createdAt} :
      Moved m now table req (.inserting createdAt) (.insert (.failed true))
        (tryInsertPending table req.key req.hash createdAt).1 (.running false now)
  | vanished : table req.key = none →
      Moved m now table req .conflicted (.get .ok) table (.running false now)
  | loaded {row} : table req.key = some row →
      Moved m now table req .conflicted (.get .ok) table (.loaded row.scan)
  | getFailed {applied} :
      Moved m now table req .conflicted (.get (.failed applied)) table (.running false now)
  | expired {rec} : now - rec.createdAt > m.ttl →
      Moved m now table req (.loaded rec) .testExpired table .deleting
  | unexpired {rec} : ¬ now - rec.createdAt > m.ttl →
      Moved m now table req (.loaded rec) .testExpired table (.unexpired rec)
  | reused {rec} : rec.requestHash ≠ req.hash →
      Moved m now table req (.unexpired rec) .judge table (.done reusedKey)
  | abandoned {rec} : rec.requestHash = req.hash → rec.status = .pending →
      now - rec.createdAt > m.pendingTimeout →
      Moved m now table req (.unexpired rec) .judge table .deleting
  | waiting {rec} : rec.requestHash = req.hash → rec.status = .pending →
      ¬ now - rec.createdAt > m.pendingTimeout →
      Moved m now table req (.unexpired rec) .judge table (.done inProgress)
  | replayed {rec} : rec.requestHash = req.hash → rec.status = .completed →
      Moved m now table req (.unexpired rec) .judge table
        (.done (.replayed rec.httpStatus rec.responseBody))
  | tookOver {db : DbOutcome} :
      Moved m now table req .deleting (.takeOver db)
        (db.apply (fun t => delete t req.key) table) (.running false now)
  | ownerReturned {since result} :
      Moved m now table req (.running true since) (.next result) table (.recording result)
  | strayReturned {since result} :
      Moved m now table req (.running false since) (.next result) table
        (.done (.handled result))
  | recorded {result} {db : DbOutcome} :
      Moved m now table req (.recording result) (.record db)
        (db.apply (recordResult req.key result) table) (.done (.handled result))

theorem judge_moved (m : IdempotencyMiddleware) (now : Int) (table : Table) (req : Request)
    (rec : IdempotencyRecord) :
    Moved m now table req (.unexpired rec) .judge table (judge m now req.hash rec) := by
  unfold judge
  split
  · next hhash => exact .reused hhash
  next hhash =>
  simp only [ne_eq, not_not] at hhash
  split
  · next hpending =>
    split
    · next hlate => exact .abandoned hhash hpending hlate
    · next hlate => exact .waiting hhash hpending hlate
  next hpending =>
  have hcompleted : rec.status = .completed := by
    cases hstatus : rec.status with
    | pending => exact absurd hstatus hpending
    | completed => rfl
  exact .replayed hhash hcompleted

theorem advance_moved {m : IdempotencyMiddleware} {now : Int} {table table' : Table}
    {req : Request} {phase phase' : Phase} {mv : Move}
    (h : advance m now table req phase mv = some (table', phase')) :
    Moved m now table req phase mv table' phase' := by
  unfold advance at h
  split at h
  · cases h
    exact .stamped
  · next createdAt =>
    unfold tryInsertPending at h
    cases hrow : table req.key with
    | none =>
      simp only [hrow, Option.some.injEq, Prod.mk.injEq] at h
      obtain ⟨rfl, rfl⟩ := h
      exact .inserted hrow
    | some row =>
      simp only [hrow, Option.some.injEq, Prod.mk.injEq] at h
      obtain ⟨rfl, rfl⟩ := h
      exact .conflicted hrow
  · next createdAt applied =>
    cases h
    cases applied with
    | false => exact .insertFailed
    | true => exact .insertFailedApplied
  · unfold get at h
    cases hrow : table req.key with
    | none =>
      simp only [hrow, Option.map_none, Option.some.injEq, Prod.mk.injEq] at h
      obtain ⟨rfl, rfl⟩ := h
      exact .vanished hrow
    | some row =>
      simp only [hrow, Option.map_some, Option.some.injEq, Prod.mk.injEq] at h
      obtain ⟨rfl, rfl⟩ := h
      exact .loaded hrow
  · cases h
    exact .getFailed
  · next rec =>
    cases h
    split
    · next hlate => exact .expired hlate
    · next hlate => exact .unexpired hlate
  · next rec =>
    cases h
    exact judge_moved m now table req rec
  · cases h
    exact .tookOver
  · next owner since result =>
    cases h
    cases owner with
    | false => exact .strayReturned
    | true => exact .ownerReturned
  · cases h
    exact .recorded
  · cases h

/-- Everything a step of the system can do. -/
inductive Stepped (m : IdempotencyMiddleware) (sha256Hex : String → String) (s : State) :
    Action → State → Prop where
  | tick {d : Int} : 0 ≤ d → Stepped m sha256Hex s (.tick d) { s with now := s.now + d }
  | arrive {i c req} : s.flights i = none → handlerKey sha256Hex c = some req →
      Stepped m sha256Hex s (.arrive i c) (s.put i ⟨req, .arrived⟩)
  | move {i f mv table phase} : s.flights i = some f →
      Moved m s.now s.table f.request f.phase mv table phase →
      Stepped m sha256Hex s (.move i mv)
        (({ s with table := table } : State).put i ⟨f.request, phase⟩)
  | crash {i f} : s.flights i = some f → (∀ reply, f.phase ≠ .done reply) →
      Stepped m sha256Hex s (.crash i) (s.put i ⟨f.request, .crashed⟩)
  | sweep {cutoff : Int} : cutoff ≤ s.now - m.ttl →
      Stepped m sha256Hex s (.sweep cutoff) { s with table := sweep s.table cutoff }

theorem step_stepped {m : IdempotencyMiddleware} {sha256Hex : String → String} {s t : State}
    {a : Action} (h : step m sha256Hex s a = some t) : Stepped m sha256Hex s a t := by
  unfold step at h
  split at h
  · split at h
    · next hd =>
      cases h
      exact .tick hd
    · cases h
  · split at h
    · next habsent hkey =>
      cases h
      exact .arrive habsent hkey
    · cases h
  · split at h
    · cases h
    next f hflight =>
    split at h
    · cases h
    next hadvance =>
    cases h
    exact .move hflight (advance_moved hadvance)
  · split at h
    · cases h
    · next f hlive hflight =>
      cases h
      refine .crash hflight ?_
      intro reply hdone
      exact hlive f.request reply (by rw [← hdone])
    · cases h
  · split at h
    · next hcutoff =>
      cases h
      exact .sweep hcutoff
    · cases h

section Put

variable (s : State) (i j : Nat) (f : Flight)

@[simp] theorem State.put_table : (s.put i f).table = s.table := rfl

@[simp] theorem State.put_same : (s.put i f).flights i = some f := by simp [State.put]

theorem State.put_other (h : j ≠ i) : (s.put i f).flights j = s.flights j := by
  simp [State.put, h]

/-- A flight after `put` is the one put there or an old one of another request. -/
theorem State.put_flight {s : State} {i j : Nat} {f g : Flight}
    (h : (s.put i f).flights j = some g) :
    (j = i ∧ g = f) ∨ (j ≠ i ∧ s.flights j = some g) := by
  by_cases hj : j = i
  · subst hj
    simp only [State.put_same, Option.some.injEq] at h
    exact .inl ⟨rfl, h.symm⟩
  · rw [State.put_other s i j f hj] at h
    exact .inr ⟨hj, h⟩

end Put

/-- Where a flight comes from: it was there before, or it was put there by the
action of its own request. -/
theorem flight_cases {m : IdempotencyMiddleware} {sha256Hex : String → String} {s t : State}
    {a : Action} {i : Nat} {g : Flight} (hstep : step m sha256Hex s a = some t)
    (hg : t.flights i = some g) :
    s.flights i = some g ∨
      (s.flights i = none ∧ g.phase = .arrived ∧ ∃ c, a = .arrive i c) ∨
      (∃ f, s.flights i = some f ∧ (∀ reply, f.phase ≠ .done reply) ∧
        g = ⟨f.request, .crashed⟩) ∨
      ∃ f mv, a = .move i mv ∧ s.flights i = some f ∧ g.request = f.request ∧
        Moved m s.now s.table f.request f.phase mv t.table g.phase := by
  cases step_stepped hstep with
  | tick _ => exact .inl hg
  | sweep _ => exact .inl hg
  | arrive habsent _ =>
    rcases State.put_flight hg with ⟨rfl, rfl⟩ | ⟨-, hg⟩
    · exact .inr (.inl ⟨habsent, rfl, _, rfl⟩)
    · exact .inl hg
  | crash hf hlive =>
    rcases State.put_flight hg with ⟨rfl, rfl⟩ | ⟨-, hg⟩
    · exact .inr (.inr (.inl ⟨_, hf, hlive, rfl⟩))
    · exact .inl hg
  | move hf hmoved =>
    rcases State.put_flight hg with ⟨rfl, rfl⟩ | ⟨-, hg⟩
    · exact .inr (.inr (.inr ⟨_, _, rfl, hf, rfl, hmoved⟩))
    · exact .inl hg

/-- A request stays in flight: it crashes, it moves, or it is where it was. -/
theorem flight_persists {m : IdempotencyMiddleware} {sha256Hex : String → String} {s t : State}
    {a : Action} {i : Nat} {f : Flight} (hstep : step m sha256Hex s a = some t)
    (hf : s.flights i = some f) :
    ∃ g, t.flights i = some g ∧ g.request = f.request ∧
      (g = f ∨ (a = .crash i ∧ g.phase = .crashed ∧ ∀ reply, f.phase ≠ .done reply) ∨
        ∃ mv, a = .move i mv ∧
          Moved m s.now s.table f.request f.phase mv t.table g.phase) := by
  cases step_stepped hstep with
  | tick _ => exact ⟨f, hf, rfl, .inl rfl⟩
  | sweep _ => exact ⟨f, hf, rfl, .inl rfl⟩
  | @arrive j c req habsent _ =>
    have hij : i ≠ j := by
      rintro rfl
      rw [habsent] at hf
      cases hf
    exact ⟨f, by rw [State.put_other _ _ _ _ hij]; exact hf, rfl, .inl rfl⟩
  | @crash j g hg hlive =>
    by_cases hij : i = j
    · subst hij
      obtain rfl := Option.some.inj (hf.symm.trans hg)
      exact ⟨_, State.put_same _ _ _, rfl, .inr (.inl ⟨rfl, rfl, hlive⟩)⟩
    · exact ⟨f, by rw [State.put_other _ _ _ _ hij]; exact hf, rfl, .inl rfl⟩
  | @move j g mv table phase hg hmoved =>
    by_cases hij : i = j
    · subst hij
      obtain rfl := Option.some.inj (hf.symm.trans hg)
      exact ⟨_, State.put_same _ _ _, rfl, .inr (.inr ⟨mv, rfl, hmoved⟩)⟩
    · exact ⟨f, by rw [State.put_other _ _ _ _ hij]; exact hf, rfl, .inl rfl⟩

theorem DbOutcome.apply_cases (run : Table → Table) (table : Table) (db : DbOutcome) :
    db.apply run table = run table ∨ db.apply run table = table := by
  unfold DbOutcome.apply
  split
  · exact .inl rfl
  · split
    · exact .inl rfl
    · exact .inr rfl

section Tables

variable {table : Table} {key other : Key}

/-- Every statement of a request leaves the rows of other keys alone. -/
theorem Moved.frame {m : IdempotencyMiddleware} {now : Int} {table' : Table} {req : Request}
    {phase phase' : Phase} {mv : Move} (h : Moved m now table req phase mv table' phase')
    (hne : other ≠ req.key) : table' other = table other := by
  have hinsert (createdAt : Int) :
      (tryInsertPending table req.key req.hash createdAt).1 other = table other := by
    unfold tryInsertPending
    split <;> simp [hne]
  have hdelete : delete table req.key other = table other := by simp [delete, hne]
  have hrecord (result : HandlerResult) :
      recordResult req.key result table other = table other := by
    unfold recordResult
    split
    · exact hdelete
    · split
      · simp [complete, hne]
      · exact hdelete
  have hdb (run : Table → Table) (db : DbOutcome) (hrun : run table other = table other) :
      db.apply run table other = table other := by
    rcases db.apply_cases run table with happly | happly
    · rw [happly]
      exact hrun
    · rw [happly]
  cases h with
  | inserted _ => simp [hne]
  | insertFailedApplied => exact hinsert _
  | tookOver => exact hdb _ _ hdelete
  | recorded => exact hdb _ _ (hrecord _)
  | _ => rfl

/-- The row a move leaves at its key: the old one, a pending one of its own, or
the old one completed with the response the request is now done with. -/
theorem Moved.row_cases {m : IdempotencyMiddleware} {now : Int} {table' : Table}
    {req : Request} {phase phase' : Phase} {mv : Move} {row : Row}
    (h : Moved m now table req phase mv table' phase') (hrow : table' req.key = some row) :
    table req.key = some row ∨
      (table req.key = none ∧ ∃ db createdAt, mv = .insert db ∧ phase = .inserting createdAt ∧
        row = pendingRow req.hash createdAt) ∨
      ∃ old status body, phase = .recording (.answered status body) ∧
        phase' = .done (.handled (.answered status body)) ∧
        table req.key = some old ∧ row = old.complete status body := by
  cases h with
  | @inserted createdAt hnone =>
    simp only [Function.update_self, Option.some.injEq] at hrow
    exact .inr (.inl ⟨hnone, _, createdAt, rfl, rfl, hrow.symm⟩)
  | @insertFailedApplied createdAt =>
    unfold tryInsertPending at hrow
    split at hrow
    · exact .inl hrow
    · next hnone =>
      simp only [Function.update_self, Option.some.injEq] at hrow
      exact .inr (.inl ⟨hnone, _, createdAt, rfl, rfl, hrow.symm⟩)
  | @tookOver db =>
    rcases db.apply_cases (fun t => delete t req.key) table with happly | happly
    · rw [happly] at hrow
      simp [delete] at hrow
    · rw [happly] at hrow
      exact .inl hrow
  | @recorded result db =>
    rcases db.apply_cases (recordResult req.key result) table with happly | happly
    · rw [happly] at hrow
      cases result with
      | failed error => simp [recordResult, delete] at hrow
      | answered status body =>
        simp only [recordResult] at hrow
        split at hrow
        · simp only [complete, Function.update_self, Option.map_eq_some_iff] at hrow
          obtain ⟨old, hold, rfl⟩ := hrow
          exact .inr (.inr ⟨old, status, body, rfl, rfl, hold, rfl⟩)
        · simp [delete] at hrow
    · rw [happly] at hrow
      exact .inl hrow
  | _ => exact .inl hrow

theorem sweep_some {cutoff : Int} {row : Row} :
    sweep table cutoff key = some row ↔ table key = some row ∧ ¬ row.createdAt < cutoff := by
  simp [sweep, Option.filter_eq_some_iff]

end Tables

/-- The phases in which a request owns its key. -/
def Phase.owns : Phase → Bool
  | .running true _ => true
  | .recording _ => true
  | _ => false

/-- Only `runAndRecord` and a takeover touch a row that is there. -/
theorem Moved.keeps_row {m : IdempotencyMiddleware} {now : Int} {table table' : Table}
    {req : Request} {phase phase' : Phase} {mv : Move} {row : Row}
    (h : Moved m now table req phase mv table' phase') (howns : phase.owns = false)
    (hdeleting : phase ≠ .deleting) (hrow : table req.key = some row) :
    table' req.key = some row := by
  cases h with
  | inserted hnone => rw [hnone] at hrow; cases hrow
  | insertFailedApplied => simp [tryInsertPending, hrow]
  | tookOver => exact absurd rfl hdeleting
  | recorded => cases howns
  | _ => exact hrow

/-- A request owns its key after a move because it did before, or because this
move is the INSERT that found no row. -/
theorem Moved.owns_cases {m : IdempotencyMiddleware} {now : Int} {table table' : Table}
    {req : Request} {phase phase' : Phase} {mv : Move}
    (h : Moved m now table req phase mv table' phase') (howns : phase'.owns = true) :
    (phase.owns = true ∧ table' = table) ∨
      (phase.owns = false ∧ table req.key = none ∧
        ∃ createdAt, table' req.key = some (pendingRow req.hash createdAt)) := by
  cases h with
  | @inserted createdAt hnone => exact .inr ⟨rfl, hnone, createdAt, by simp⟩
  | ownerReturned => exact .inl ⟨rfl, rfl⟩
  | reused => cases howns
  | waiting => cases howns
  | _ => cases howns

/-- Every owner finds its own pending row, and no key has two owners. -/
structure Owned (s : State) : Prop where
  row : ∀ i f, s.flights i = some f → f.phase.owns = true →
    ∃ row, s.table f.request.key = some row ∧ row.status = .pending ∧
      row.requestHash = f.request.hash
  unique : ∀ i j f g, s.flights i = some f → s.flights j = some g →
    f.phase.owns = true → g.phase.owns = true → f.request.key = g.request.key → i = j

/-- Neither a takeover nor a sweep removes the row of a request that is still
in `runAndRecord`. -/
def SparesOwners (s : State) : Action → Prop
  | .move i (.takeOver _) => ∀ f, s.flights i = some f → f.phase = .deleting →
      ∀ j g, s.flights j = some g → g.phase.owns = true → g.request.key ≠ f.request.key
  | .sweep cutoff => ∀ j g row, s.flights j = some g → g.phase.owns = true →
      s.table g.request.key = some row → ¬ row.createdAt < cutoff
  | _ => True

theorem owned_init (now : Int) : Owned (init now) := by
  constructor
  · intro i f hf
    cases hf
  · intro i j f g hf
    cases hf

/-- Another owner keeps its row: the mover is neither an owner of that key nor
taking it over. -/
theorem Owned.keeps_other {m : IdempotencyMiddleware} {s : State} {i j : Nat} {f g : Flight}
    {mv : Move} {table : Table} {phase : Phase} {row : Row} (howned : Owned s)
    (hf : s.flights i = some f)
    (hmoved : Moved m s.now s.table f.request f.phase mv table phase)
    (hspares : SparesOwners s (.move i mv)) (hji : j ≠ i) (hg : s.flights j = some g)
    (hgowns : g.phase.owns = true) (hrow : s.table g.request.key = some row) :
    table g.request.key = some row := by
  by_cases hkey : g.request.key = f.request.key
  · have hfowns : f.phase.owns = false := by
      by_contra hfowns
      simp only [Bool.not_eq_false] at hfowns
      exact hji (howned.unique j i g f hg hf hgowns hfowns hkey)
    rw [hkey] at hrow ⊢
    refine hmoved.keeps_row hfowns ?_ hrow
    intro hdeleting
    rw [hdeleting] at hmoved
    cases hmoved with
    | tookOver => exact hspares f hf hdeleting j g hg hgowns hkey
  · rw [hmoved.frame hkey]
    exact hrow

theorem owned_move {m : IdempotencyMiddleware} {s : State} {i : Nat} {f : Flight} {mv : Move}
    {table : Table} {phase : Phase} (hf : s.flights i = some f)
    (hmoved : Moved m s.now s.table f.request f.phase mv table phase)
    (hspares : SparesOwners s (.move i mv)) (howned : Owned s) :
    Owned (({ s with table := table } : State).put i ⟨f.request, phase⟩) := by
  constructor
  · intro j g hg hgowns
    rcases State.put_flight hg with ⟨rfl, rfl⟩ | ⟨hji, hg⟩
    · rcases hmoved.owns_cases hgowns with ⟨hfowns, htable⟩ | ⟨-, -, createdAt, hrow⟩
      · subst htable
        exact howned.row j f hf hfowns
      · exact ⟨_, hrow, rfl, rfl⟩
    · obtain ⟨row, hrow, hpending, hhash⟩ := howned.row j g hg hgowns
      exact ⟨row, howned.keeps_other hf hmoved hspares hji hg hgowns hrow, hpending, hhash⟩
  · -- a new owner inserted where there was no row, hence no other owner
    have hfresh : ∀ j g, j ≠ i → s.flights j = some g → g.phase.owns = true →
        phase.owns = true → g.request.key ≠ f.request.key := by
      intro j g hji hg hgowns howns hkey
      rcases hmoved.owns_cases howns with ⟨hfowns, -⟩ | ⟨-, hnone, -⟩
      · exact hji (howned.unique j i g f hg hf hgowns hfowns hkey)
      · obtain ⟨row, hrow, -⟩ := howned.row j g hg hgowns
        rw [hkey, hnone] at hrow
        cases hrow
    intro j k g g' hg hg' hgowns hgowns' hkey
    rcases State.put_flight hg with ⟨hj, rfl⟩ | ⟨hji, hold⟩
    · rcases State.put_flight hg' with ⟨hk, rfl⟩ | ⟨hki, hold'⟩
      · rw [hj, hk]
      · exact absurd hkey.symm (hfresh k g' hki hold' hgowns' hgowns)
    · rcases State.put_flight hg' with ⟨hk, rfl⟩ | ⟨hki, hold'⟩
      · exact absurd hkey (hfresh j g hji hold hgowns hgowns')
      · exact howned.unique j k g g' hold hold' hgowns hgowns' hkey

/-- A step that changes no table and makes nobody an owner. -/
theorem owned_put {s : State} {i : Nat} {f : Flight} (howns : f.phase.owns = false)
    (howned : Owned s) : Owned (s.put i f) := by
  have hold : ∀ j g, (s.put i f).flights j = some g → g.phase.owns = true →
      s.flights j = some g := by
    intro j g hg hgowns
    rcases State.put_flight hg with ⟨rfl, rfl⟩ | ⟨-, hg⟩
    · rw [howns] at hgowns
      cases hgowns
    · exact hg
  constructor
  · intro j g hg hgowns
    exact howned.row j g (hold j g hg hgowns) hgowns
  · intro j k g g' hg hg' hgowns hgowns' hkey
    exact howned.unique j k g g' (hold j g hg hgowns) (hold k g' hg' hgowns')
      hgowns hgowns' hkey

/-- The step lemma of ownership. -/
theorem owned_step {m : IdempotencyMiddleware} {sha256Hex : String → String} {s t : State}
    {a : Action} (hstep : step m sha256Hex s a = some t) (hspares : SparesOwners s a)
    (howned : Owned s) : Owned t := by
  cases step_stepped hstep with
  | tick _ => exact ⟨howned.row, howned.unique⟩
  | arrive _ _ => exact owned_put rfl howned
  | move hf hmoved => exact owned_move hf hmoved hspares howned
  | crash _ _ => exact owned_put rfl howned
  | sweep _ =>
    refine ⟨?_, howned.unique⟩
    intro i f hf howns
    obtain ⟨row, hrow, hpending, hhash⟩ := howned.row i f hf howns
    exact ⟨row, sweep_some.mpr ⟨hrow, hspares i f row hf howns hrow⟩, hpending, hhash⟩

end WhatsappGateway.Idempotency
