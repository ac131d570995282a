import WhatsappGateway.Middleware.IdempotencyTimeout

/-!
The core law of the middleware. Requests of one window, shorter than the pending
timeout and the TTL, never find a row too old, so the table alone decides: the
row of a key is pending exactly while its owner is in `runAndRecord`, a 2xx
response answers everyone who comes later, any other result frees the key, and
when every run answers 2xx there is exactly one.
-/

namespace WhatsappGateway.Idempotency

open Lib

/-- A step of the window from `start`: no database error and no crash, within
the TTL, and verdicts on pending rows within the pending timeout. -/
structure InWindow (m : IdempotencyMiddleware) (start : Int) (s : State) (a : Action) :
    Prop where
  db : NoDbError s a
  crash : NoCrash s a
  ttl : s.now - start ≤ m.ttl
  timeout : ∀ i, a = .move i .judge → s.now - start ≤ m.pendingTimeout

/-- What a request of the window remembers is from the window. -/
def FreshPhase (start : Int) : Phase → Prop
  | .inserting createdAt => start ≤ createdAt
  | .loaded rec => start ≤ rec.createdAt
  | .unexpired rec => start ≤ rec.createdAt
  | .deleting => False
  | _ => True

/-- Clock, rows and requests are all from the window. -/
structure Fresh (start : Int) (s : State) : Prop where
  clock : start ≤ s.now
  rows : ∀ key row, s.table key = some row → start ≤ row.createdAt
  phases : ∀ i f, s.flights i = some f → FreshPhase start f.phase

section Fresh

variable {m : IdempotencyMiddleware} {sha256Hex : String → String} {start : Int} {s t : State}
  {a : Action}

theorem Fresh.noTakeover (hs : Fresh start s) : NoTakeover s := by
  intro i f hf hdeleting
  have hfresh := hs.phases i f hf
  rw [hdeleting] at hfresh
  exact hfresh

theorem Fresh.sparesOwners (hstep : step m sha256Hex s a = some t)
    (hwindow : InWindow m start s a) (hs : Fresh start s) : SparesOwners s a := by
  cases step_stepped hstep with
  | @move i f mv _ _ hf _ =>
    cases mv with
    | takeOver db =>
      intro g hg hdeleting
      exact absurd hdeleting (hs.noTakeover i g hg)
    | _ => trivial
  | @sweep cutoff hcutoff =>
    intro j g row _ _ hrow
    have hrowfresh := hs.rows _ row hrow
    have hwithin := hwindow.ttl
    omega
  | _ => trivial

/-- A sweep of the window finds nothing. -/
theorem Fresh.sweep_eq {cutoff : Int} (hwithin : s.now - start ≤ m.ttl)
    (hcutoff : cutoff ≤ s.now - m.ttl) (hs : Fresh start s) : sweep s.table cutoff = s.table := by
  funext key
  cases hrow : s.table key with
  | none => simp [sweep, hrow]
  | some row =>
    have hfresh := hs.rows key row hrow
    rw [sweep_some]
    exact ⟨hrow, by omega⟩

theorem freshPhase_moved {now : Int} {table table' : Table} {req : Request}
    {phase phase' : Phase} {mv : Move} (h : Moved m now table req phase mv table' phase')
    (hclock : start ≤ now) (hrows : ∀ key row, table key = some row → start ≤ row.createdAt)
    (httl : now - start ≤ m.ttl) (htimeout : mv = .judge → now - start ≤ m.pendingTimeout)
    (hs : FreshPhase start phase) : FreshPhase start phase' := by
  cases h with
  | stamped => exact hclock
  | @loaded row hrow => exact hrows _ row hrow
  | @expired rec hlate =>
    have hrec : start ≤ rec.createdAt := hs
    omega
  | unexpired _ => exact hs
  | @abandoned rec _ _ hlate =>
    have hrec : start ≤ rec.createdAt := hs
    have hwithin := htimeout rfl
    omega
  | _ => trivial

theorem fresh_step (hstep : step m sha256Hex s a = some t) (hwindow : InWindow m start s a)
    (hs : Fresh start s) : Fresh start t := by
  cases step_stepped hstep with
  | tick hd => exact ⟨Int.le_trans hs.clock (Int.le_add_of_nonneg_right hd), hs.rows, hs.phases⟩
  | crash _ _ => exact hwindow.crash.elim
  | sweep hcutoff =>
    refine ⟨hs.clock, ?_, hs.phases⟩
    intro key row hrow
    exact hs.rows key row (sweep_some.mp hrow).1
  | arrive _ _ =>
    refine ⟨hs.clock, hs.rows, ?_⟩
    intro j g hg
    rcases State.put_flight hg with ⟨-, rfl⟩ | ⟨-, hg⟩
    · trivial
    · exact hs.phases j g hg
  | @move i f mv table phase hf hmoved =>
    refine ⟨hs.clock, ?_, ?_⟩
    · intro key row hrow
      replace hrow : table key = some row := hrow
      by_cases hkey : key = f.request.key
      · subst hkey
        have hfresh := hs.phases i f hf
        rcases hmoved.row_cases hrow with hold | ⟨-, db, createdAt, -, hphase, rfl⟩ |
          ⟨old, status, body, -, -, hold, rfl⟩
        · exact hs.rows _ row hold
        · rw [hphase] at hfresh
          exact hfresh
        · exact hs.rows _ old hold
      · rw [hmoved.frame hkey] at hrow
        exact hs.rows key row hrow
    · intro j g hg
      rcases State.put_flight hg with ⟨-, rfl⟩ | ⟨-, hg⟩
      · exact freshPhase_moved hmoved hs.clock hs.rows hwindow.ttl
          (fun hjudge => hwindow.timeout i (by rw [hjudge])) (hs.phases i f hf)
      · exact hs.phases j g hg

/-- What holds in every state of the window. -/
structure Core (start : Int) (s : State) : Prop where
  owned : Owned s
  attended : Attended s
  fresh : Fresh start s

theorem core_init (start : Int) : Core start (init start) := by
  refine ⟨owned_init start, attended_init start, Int.le_refl start, ?_, ?_⟩
  · intro key row hrow
    cases hrow
  · intro i f hf
    cases hf

theorem core_step (hstep : step m sha256Hex s a = some t) (hwindow : InWindow m start s a)
    (hs : Core start s) : Core start t :=
  ⟨owned_step hstep (hs.fresh.sparesOwners hstep hwindow) hs.owned,
    attended_step hstep hwindow.db hwindow.crash hs.fresh.noTakeover hs.attended,
    fresh_step hstep hwindow hs.fresh⟩

theorem core_run {as : List Action}
    (hrun : Run (step m sha256Hex) (InWindow m start) (init start) as s) : Core start s :=
  hrun.invariant (core_init start) fun _ _ _ hwindow hstep hs => core_step hstep hwindow hs

/-- The row of a key is pending exactly while its owner is in `runAndRecord`. -/
theorem Core.pending_iff (hs : Core start s) (key : Key) :
    (∃ row, s.table key = some row ∧ row.status = .pending) ↔
      ∃ i f, s.flights i = some f ∧ f.request.key = key ∧ f.phase.owns = true := by
  constructor
  · rintro ⟨row, hrow, hpending⟩
    exact hs.attended key row hrow hpending
  · rintro ⟨i, f, hf, rfl, howns⟩
    obtain ⟨row, hrow, hpending, -⟩ := hs.owned.row i f hf howns
    exact ⟨row, hrow, hpending⟩

end Fresh

section Conflict

variable {m : IdempotencyMiddleware} {sha256Hex : String → String} {start : Int} {s t : State}

/-- Where a request is that has read a pending row of its own hash. -/
def WaitPhase (rec : IdempotencyRecord) (phase : Phase) : Prop :=
  phase = .loaded rec ∨ phase = .unexpired rec ∨ phase = .done inProgress

/-- Such a request ends with 409, in the window. -/
theorem waitPhase_moved {now : Int} {table table' : Table} {req : Request}
    {phase phase' : Phase} {mv : Move} {rec : IdempotencyRecord}
    (h : Moved m now table req phase mv table' phase') (hhash : rec.requestHash = req.hash)
    (hpending : rec.status = .pending) (hfresh : start ≤ rec.createdAt)
    (httl : now - start ≤ m.ttl) (htimeout : mv = .judge → now - start ≤ m.pendingTimeout)
    (hs : WaitPhase rec phase) : WaitPhase rec phase' := by
  rcases hs with rfl | rfl | rfl
  · cases h with
    | expired hlate => omega
    | unexpired _ => exact .inr (.inl rfl)
  · cases h with
    | reused hne => exact absurd hhash hne
    | abandoned _ _ hlate =>
      have hwithin := htimeout rfl
      omega
    | waiting _ _ _ => exact .inr (.inr rfl)
    | replayed _ hcompleted =>
      rw [hpending] at hcompleted
      cases hcompleted
  · cases h

/-- Request `i` has read the pending record `rec` of its own hash. -/
def Waits (i : Nat) (req : Request) (rec : IdempotencyRecord) (s : State) : Prop :=
  ∃ g, s.flights i = some g ∧ g.request = req ∧ WaitPhase rec g.phase

theorem waits_run {i : Nat} {req : Request} {rec : IdempotencyRecord} {bs : List Action}
    (hrun : Run (step m sha256Hex) (InWindow m start) s bs t)
    (hhash : rec.requestHash = req.hash) (hpending : rec.status = .pending)
    (hfresh : start ≤ rec.createdAt) (hs : Waits i req rec s) : Waits i req rec t := by
  refine hrun.invariant hs ?_
  rintro s a t hwindow hstep ⟨g, hg, rfl, hwait⟩
  obtain ⟨g', hg', hreq, rfl | ⟨rfl, -⟩ | ⟨mv, rfl, hmoved⟩⟩ := flight_persists hstep hg
  · exact ⟨g', hg', rfl, hwait⟩
  · exact hwindow.crash.elim
  · refine ⟨g', hg', hreq, ?_⟩
    exact waitPhase_moved hmoved hhash hpending hfresh hwindow.ttl
      (fun hjudge => hwindow.timeout i (by rw [hjudge])) hwait

end Conflict

section Release

variable {m : IdempotencyMiddleware} {sha256Hex : String → String} {s t : State} {key : Key}
  {a : Action}

/-- A step runs an INSERT on a key. -/
def InsertsOn (key : Key) (s : State) (a : Action) : Prop :=
  ∃ i db f, a = .move i (.insert db) ∧ s.flights i = some f ∧ f.request.key = key

/-- A free key stays free until the next INSERT on it. -/
theorem free_step (hstep : step m sha256Hex s a = some t) (hinsert : ¬ InsertsOn key s a)
    (hfree : s.table key = none) : t.table key = none := by
  cases step_stepped hstep with
  | tick _ => exact hfree
  | arrive _ _ => exact hfree
  | crash _ _ => exact hfree
  | sweep _ => simp [sweep, hfree]
  | @move i f mv table phase hf hmoved =>
    by_cases hkey : key = f.request.key
    · subst hkey
      cases hrow : table f.request.key with
      | none => exact hrow
      | some row =>
        rcases hmoved.row_cases hrow with hold | ⟨-, db, createdAt, rfl, -, -⟩ |
          ⟨old, status, body, -, -, hold, -⟩
        · rw [hfree] at hold
          cases hold
        · exact absurd ⟨i, db, f, rfl, hf, rfl⟩ hinsert
        · rw [hfree] at hold
          cases hold
    · exact (hmoved.frame hkey).trans hfree

/-- A request whose INSERT finds the key free becomes its owner. -/
theorem insert_free {j : Nat} {g : Flight} {createdAt : Int} (hg : s.flights j = some g)
    (hphase : g.phase = .inserting createdAt) (hfree : s.table g.request.key = none) :
    ∃ t, step m sha256Hex s (.move j (.insert .ok)) = some t ∧
      t.flights j = some ⟨g.request, .running true s.now⟩ ∧
      t.table g.request.key = some (pendingRow g.request.hash createdAt) := by
  simp [step, hg, hphase, advance, tryInsertPending, hfree]

theorem recordResult_free {result : HandlerResult} {table : Table}
    (h2xx : result.is2xx = false) : recordResult key result table key = none := by
  cases result with
  | failed error => simp [recordResult, delete]
  | answered status body =>
    have hstatus : ¬ (status ≥ 200 ∧ status < 300) := by
      simpa [HandlerResult.is2xx] using h2xx
    simp [recordResult, hstatus, delete]

end Release

section Once

variable {m : IdempotencyMiddleware} {sha256Hex : String → String} {start : Int} {s t : State}
  {key : Key} {a : Action}

/-- The phases of a request that has entered the handler. -/
def Phase.hasRun : Phase → Bool
  | .running _ _ => true
  | .recording _ => true
  | .done (.handled _) => true
  | _ => false

/-- The phases before the INSERT. -/
def Phase.beforeInsert : Phase → Bool
  | .arrived => true
  | .inserting _ => true
  | _ => false

/-- Every handler run for `key` answers 2xx. -/
def Answers2xx (key : Key) (s : State) (a : Action) : Prop :=
  ∀ i f result, a = .move i (.next result) → s.flights i = some f → f.request.key = key →
    result.is2xx = true

/-- Until the first INSERT nobody has entered the handler for the key; after it
one request has, and its result is 2xx. -/
structure RunOnce (key : Key) (s : State) : Prop where
  untouched : s.table key = none → ∀ i f, s.flights i = some f → f.request.key = key →
    f.phase.beforeInsert = true
  ran : ∀ row, s.table key = some row →
    ∃ i f, s.flights i = some f ∧ f.request.key = key ∧ f.phase.hasRun = true
  unique : ∀ i j f g, s.flights i = some f → s.flights j = some g → f.request.key = key →
    g.request.key = key → f.phase.hasRun = true → g.phase.hasRun = true → i = j
  ok : ∀ i f result, s.flights i = some f → f.request.key = key →
    f.phase = .recording result → result.is2xx = true

/-- A move enters the handler by inserting on a free key, or from beyond the
INSERT on a free key; otherwise who has run the handler stays the same. -/
theorem Moved.hasRun_cases {now : Int} {table table' : Table} {req : Request}
    {phase phase' : Phase} {mv : Move} (h : Moved m now table req phase mv table' phase')
    (hdb : mv.db = .ok) (hdeleting : phase ≠ .deleting) :
    phase'.hasRun = phase.hasRun ∨ table req.key = none := by
  cases h with
  | inserted hnone => exact .inr hnone
  | vanished hnone => exact .inr hnone
  | insertFailed => cases hdb
  | insertFailedApplied => cases hdb
  | getFailed => cases hdb
  | tookOver => exact absurd rfl hdeleting
  | _ => exact .inl rfl

theorem complete_some {table : Table} {row : Row} {result : HandlerResult}
    (hrow : table key = some row) (h2xx : result.is2xx = true) :
    ∃ row', recordResult key result table key = some row' := by
  cases result with
  | failed error => cases h2xx
  | answered status body =>
    have hstatus : status ≥ 200 ∧ status < 300 := by
      simpa [HandlerResult.is2xx] using h2xx
    simp [recordResult, hstatus, complete, hrow]

/-- A row stays there when only 2xx results are recorded. -/
theorem Moved.row_stays {now : Int} {table table' : Table} {req : Request}
    {phase phase' : Phase} {mv : Move} {row : Row}
    (h : Moved m now table req phase mv table' phase') (hdb : mv.db = .ok)
    (hdeleting : phase ≠ .deleting) (hrow : table req.key = some row)
    (h2xx : ∀ result, phase = .recording result → result.is2xx = true) :
    ∃ row', table' req.key = some row' := by
  cases h with
  | inserted hnone => exact ⟨_, Function.update_self _ _ _⟩
  | insertFailedApplied => cases hdb
  | tookOver => exact absurd rfl hdeleting
  | @recorded result db =>
    obtain rfl : db = .ok := hdb
    exact complete_some hrow (h2xx result rfl)
  | _ => exact ⟨row, hrow⟩

theorem beforeInsert_not_hasRun {phase : Phase} (h : phase.beforeInsert = true) :
    phase.hasRun = false := by
  cases phase with
  | arrived => rfl
  | inserting _ => rfl
  | _ => cases h

/-- A move of a request of another key. -/
theorem runOnce_other {i : Nat} {f : Flight} {table : Table} {phase : Phase}
    (hkey : f.request.key ≠ key) (htable : table key = s.table key) (hs : RunOnce key s)
    (hf : s.flights i = some f) :
    RunOnce key (({ s with table := table } : State).put i ⟨f.request, phase⟩) := by
  have hold : ∀ j g, (({ s with table := table } : State).put i ⟨f.request, phase⟩).flights j
      = some g → g.request.key = key → s.flights j = some g := by
    intro j g hg hgkey
    rcases State.put_flight hg with ⟨-, rfl⟩ | ⟨-, hg⟩
    · exact absurd hgkey hkey
    · exact hg
  constructor
  · intro hnone j g hg hgkey
    exact hs.untouched (htable.symm.trans hnone) j g (hold j g hg hgkey) hgkey
  · intro row hrow
    obtain ⟨j, g, hg, hgkey, hrun⟩ := hs.ran row (htable.symm.trans hrow)
    have hji : j ≠ i := by
      rintro rfl
      obtain rfl := Option.some.inj (hf.symm.trans hg)
      exact hkey hgkey
    exact ⟨j, g, by rw [State.put_other _ _ _ _ hji]; exact hg, hgkey, hrun⟩
  · intro j k g g' hg hg' hgkey hgkey'
    exact hs.unique j k g g' (hold j g hg hgkey) (hold k g' hg' hgkey') hgkey hgkey'
  · intro j g result hg hgkey
    exact hs.ok j g result (hold j g hg hgkey) hgkey

/-- The first request of the key: it stamps its row, or it inserts it. -/
theorem runOnce_first {i : Nat} {f : Flight} {mv : Move} {table : Table} {phase : Phase}
    (hf : s.flights i = some f)
    (hmoved : Moved m s.now s.table f.request f.phase mv table phase) (hdb : mv.db = .ok)
    (hnone : s.table f.request.key = none) (hs : RunOnce f.request.key s) :
    RunOnce f.request.key (({ s with table := table } : State).put i ⟨f.request, phase⟩) := by
  have hbefore := hs.untouched hnone
  have hnobody : ∀ j g, s.flights j = some g → g.request.key = f.request.key →
      g.phase.hasRun = false :=
    fun j g hg hgkey => beforeInsert_not_hasRun (hbefore j g hg hgkey)
  have honly : ∀ j g, (({ s with table := table } : State).put i ⟨f.request, phase⟩).flights j
      = some g → g.request.key = f.request.key → g.phase.hasRun = true → j = i := by
    intro j g hg hgkey hrun
    rcases State.put_flight hg with ⟨hji, -⟩ | ⟨-, hg⟩
    · exact hji
    · rw [hnobody j g hg hgkey] at hrun
      cases hrun
  have hok : (∀ result, phase ≠ .recording result) →
      ∀ j g result, (({ s with table := table } : State).put i ⟨f.request, phase⟩).flights j
        = some g → g.request.key = f.request.key → g.phase = .recording result →
        result.is2xx = true := by
    intro hquiet j g result hg hgkey hrecording
    rcases State.put_flight hg with ⟨-, rfl⟩ | ⟨-, hg⟩
    · exact absurd hrecording (hquiet result)
    · exact hs.ok j g result hg hgkey hrecording
  have hmine := hbefore i f hf rfl
  obtain ⟨req, old⟩ := f
  cases hmoved with
  | stamped =>
    refine ⟨?_, ?_, ?_, hok (by simp)⟩
    · intro _ j g hg hgkey
      rcases State.put_flight hg with ⟨-, rfl⟩ | ⟨-, hg⟩
      · rfl
      · exact hbefore j g hg hgkey
    · intro row hrow
      exact absurd (hnone.symm.trans hrow) (by simp)
    · intro j k g g' hg hg' hgkey hgkey' hrun hrun'
      rw [honly j g hg hgkey hrun, honly k g' hg' hgkey' hrun']
  | @inserted createdAt _ =>
    refine ⟨?_, ?_, ?_, hok (by simp)⟩
    · intro hnone'
      simp at hnone'
    · intro row _
      exact ⟨i, _, State.put_same _ _ _, rfl, rfl⟩
    · intro j k g g' hg hg' hgkey hgkey' hrun hrun'
      rw [honly j g hg hgkey hrun, honly k g' hg' hgkey' hrun']
  | conflicted hrow =>
    rw [hnone] at hrow
    cases hrow
  | insertFailed => cases hdb
  | insertFailedApplied => cases hdb
  | _ => cases hmine

/-- Any later request of the key. -/
theorem runOnce_later {i : Nat} {f : Flight} {mv : Move} {table : Table} {phase : Phase}
    {row : Row} (hf : s.flights i = some f)
    (hmoved : Moved m s.now s.table f.request f.phase mv table phase) (hdb : mv.db = .ok)
    (hdeleting : f.phase ≠ .deleting)
    (hanswers : ∀ result, mv = .next result → result.is2xx = true)
    (hrow : s.table f.request.key = some row) (hs : RunOnce f.request.key s) :
    RunOnce f.request.key (({ s with table := table } : State).put i ⟨f.request, phase⟩) := by
  have hsame : phase.hasRun = f.phase.hasRun := by
    rcases hmoved.hasRun_cases hdb hdeleting with hsame | hnone
    · exact hsame
    · rw [hrow] at hnone
      cases hnone
  have hold : ∀ j g, (({ s with table := table } : State).put i ⟨f.request, phase⟩).flights j
      = some g → g.request.key = f.request.key → g.phase.hasRun = true →
      ∃ g', s.flights j = some g' ∧ g'.request.key = f.request.key ∧
        g'.phase.hasRun = true := by
    intro j g hg hgkey hrun
    rcases State.put_flight hg with ⟨rfl, rfl⟩ | ⟨-, hg⟩
    · exact ⟨f, hf, rfl, hsame.symm.trans hrun⟩
    · exact ⟨g, hg, hgkey, hrun⟩
  constructor
  · intro hnone
    obtain ⟨row', hrow'⟩ := hmoved.row_stays hdb hdeleting hrow
      fun result hrecording => hs.ok i f result hf rfl hrecording
    exact absurd (hrow'.symm.trans hnone) (by simp)
  · intro _ _
    obtain ⟨j, g, hg, hgkey, hrun⟩ := hs.ran row hrow
    by_cases hji : j = i
    · subst hji
      obtain rfl := Option.some.inj (hf.symm.trans hg)
      exact ⟨j, _, State.put_same _ _ _, rfl, hsame.trans hrun⟩
    · exact ⟨j, g, by rw [State.put_other _ _ _ _ hji]; exact hg, hgkey, hrun⟩
  · intro j k g g' hg hg' hgkey hgkey' hrun hrun'
    obtain ⟨g₀, hg₀, hkey₀, hrun₀⟩ := hold j g hg hgkey hrun
    obtain ⟨g₁, hg₁, hkey₁, hrun₁⟩ := hold k g' hg' hgkey' hrun'
    exact hs.unique j k g₀ g₁ hg₀ hg₁ hkey₀ hkey₁ hrun₀ hrun₁
  · intro j g result hg hgkey hrecording
    rcases State.put_flight hg with ⟨-, rfl⟩ | ⟨-, hg⟩
    · obtain rfl : phase = .recording result := hrecording
      obtain ⟨req, old⟩ := f
      cases hmoved with
      | ownerReturned => exact hanswers result rfl
    · exact hs.ok j g result hg hgkey hrecording

/-- The step lemma of the single run. -/
theorem runOnce_step (hstep : step m sha256Hex s a = some t) (hwindow : InWindow m start s a)
    (hfresh : Fresh start s) (hanswers : Answers2xx key s a) (hs : RunOnce key s) :
    RunOnce key t := by
  cases step_stepped hstep with
  | tick _ => exact ⟨hs.untouched, hs.ran, hs.unique, hs.ok⟩
  | crash _ _ => exact hwindow.crash.elim
  | sweep hcutoff =>
    rw [hfresh.sweep_eq hwindow.ttl hcutoff]
    exact hs
  | @arrive i c req habsent _ =>
    have hold : ∀ j g, (s.put i ⟨req, .arrived⟩).flights j = some g →
        g.phase.beforeInsert = false → s.flights j = some g := by
      intro j g hg hbefore
      rcases State.put_flight hg with ⟨-, rfl⟩ | ⟨-, hg⟩
      · cases hbefore
      · exact hg
    have hbefore : ∀ phase : Phase, phase.hasRun = true → phase.beforeInsert = false := by
      intro phase hrun
      cases phase <;> first | rfl | cases hrun
    constructor
    · intro hnone j g hg hgkey
      rcases State.put_flight hg with ⟨-, rfl⟩ | ⟨-, hg⟩
      · rfl
      · exact hs.untouched hnone j g hg hgkey
    · intro row hrow
      obtain ⟨j, g, hg, hgkey, hrun⟩ := hs.ran row hrow
      have hji : j ≠ i := by
        rintro rfl
        rw [habsent] at hg
        cases hg
      exact ⟨j, g, by rw [State.put_other _ _ _ _ hji]; exact hg, hgkey, hrun⟩
    · intro j k g g' hg hg' hgkey hgkey' hrun hrun'
      exact hs.unique j k g g' (hold j g hg (hbefore _ hrun)) (hold k g' hg' (hbefore _ hrun'))
        hgkey hgkey' hrun hrun'
    · intro j g result hg hgkey hrecording
      exact hs.ok j g result (hold j g hg (by rw [hrecording]; rfl)) hgkey hrecording
  | @move i f mv table phase hf hmoved =>
    by_cases hkey : f.request.key = key
    · subst hkey
      cases hrow : s.table f.request.key with
      | none => exact runOnce_first hf hmoved hwindow.db hrow hs
      | some row =>
        exact runOnce_later hf hmoved hwindow.db (hfresh.noTakeover i f hf)
          (fun result hnext => hanswers i f result (by rw [hnext]) hf rfl) hrow hs
    · exact runOnce_other hkey (hmoved.frame (Ne.symm hkey)) hs hf

theorem runOnce_init (start : Int) : RunOnce key (init start) := by
  constructor
  · intro _ i f hf
    cases hf
  · intro row hrow
    cases hrow
  · intro i j f g hf
    cases hf
  · intro i f result hf
    cases hf

/-- Who has entered the handler does not enter it again. -/
theorem hasRun_stays {j : Nat} {f : Flight} (hstep : step m sha256Hex s a = some t)
    (hcrash : NoCrash s a) (hf : s.flights j = some f) (hrun : f.phase.hasRun = true) :
    ∃ g, t.flights j = some g ∧ g.request = f.request ∧ g.phase.hasRun = true ∧
      ∀ owner since, g.phase = .running owner since → f.phase = .running owner since := by
  obtain ⟨g, hg, hreq, rfl | ⟨rfl, -⟩ | ⟨mv, -, hmoved⟩⟩ := flight_persists hstep hf
  · exact ⟨g, hg, hreq, hrun, fun _ _ h => h⟩
  · exact hcrash.elim
  · refine ⟨g, hg, hreq, ?_⟩
    obtain ⟨req, phase⟩ := f
    obtain ⟨req', phase'⟩ := g
    generalize t.table = table at hmoved
    cases hmoved with
    | ownerReturned => exact ⟨rfl, by simp⟩
    | strayReturned => exact ⟨rfl, by simp⟩
    | recorded => exact ⟨rfl, by simp⟩
    | _ => cases hrun

theorem enters_first {i : Nat} {g : Flight} (hstep : step m sha256Hex s a = some t)
    (hcrash : NoCrash s a) (ht : RunOnce key t) (henters : EntersHandler s t i)
    (hg : t.flights i = some g) (hkey : g.request.key = key) :
    ∀ j f, s.flights j = some f → f.request.key = key → f.phase.hasRun = false := by
  intro j f hf hfkey
  by_contra hrun
  simp only [Bool.not_eq_false] at hrun
  obtain ⟨⟨g', owner, since, hg', hphase⟩, hfresh⟩ := henters
  obtain rfl := Option.some.inj (hg.symm.trans hg')
  obtain ⟨f', hf', hreq, hrun', hrunning⟩ := hasRun_stays hstep hcrash hf hrun
  obtain rfl := ht.unique j i f' g hf' hg (by rw [hreq]; exact hfkey) hkey hrun'
    (by rw [hphase]; rfl)
  obtain rfl := Option.some.inj (hg.symm.trans hf')
  exact hfresh f owner since hf (hrunning owner since hphase)

end Once

/-- The core law of the middleware in the guarded runs from `start`. -/
structure CoreLaw (m : IdempotencyMiddleware) (sha256Hex : String → String) (start : Int)
    (guard : State → Action → Prop) : Prop where
  /-- A key has at most one owner, and its row has the owner's hash. -/
  single : ∀ as s, Run (step m sha256Hex) guard (init start) as s → Owned s
  /-- The row of a key is pending exactly while its owner is in progress. -/
  pending : ∀ as s key, Run (step m sha256Hex) guard (init start) as s →
    ((∃ row, s.table key = some row ∧ row.status = .pending) ↔
      ∃ i f, s.flights i = some f ∧ f.request.key = key ∧ f.phase.owns = true)
  /-- After a 2xx response, later requests get it or 422, and do not run. -/
  replays : ∀ as s i f status body t, Run (step m sha256Hex) guard (init start) as s →
    s.flights i = some f → f.phase = .recording (.answered status body) →
    (HandlerResult.answered status body).is2xx = true →
    guard s (.move i (.record .ok)) →
    step m sha256Hex s (.move i (.record .ok)) = some t →
    ∀ bs u, Run (step m sha256Hex) guard t bs u → ∀ j g, t.flights j = none →
      u.flights j = some g → g.request.key = f.request.key →
      (∀ owner since, g.phase ≠ .running owner since) ∧
      ∀ reply, g.phase = .done reply →
        reply = if g.request.hash = f.request.hash then .replayed status body else reusedKey
  /-- Who reads a pending row of its own hash gets 409, and does not run. -/
  conflicts : ∀ as s i f row t, Run (step m sha256Hex) guard (init start) as s →
    s.flights i = some f → s.table f.request.key = some row → row.status = .pending →
    row.requestHash = f.request.hash → guard s (.move i (.get .ok)) →
    step m sha256Hex s (.move i (.get .ok)) = some t →
    ∀ bs u, Run (step m sha256Hex) guard t bs u → ∃ g, u.flights i = some g ∧
      (∀ owner since, g.phase ≠ .running owner since) ∧
      ∀ reply, g.phase = .done reply → reply = inProgress
  /-- Any other result removes the row, and the next INSERT finds its owner. -/
  releases : ∀ as s i f result t, Run (step m sha256Hex) guard (init start) as s →
    s.flights i = some f → f.phase = .recording result → result.is2xx = false →
    guard s (.move i (.record .ok)) →
    step m sha256Hex s (.move i (.record .ok)) = some t →
    ∀ bs u, Run (step m sha256Hex) (fun s a => guard s a ∧ ¬ InsertsOn f.request.key s a) t bs u →
      u.table f.request.key = none ∧
      ∀ j g createdAt, u.flights j = some g → g.request.key = f.request.key →
        g.phase = .inserting createdAt →
        ∃ v, step m sha256Hex u (.move j (.insert .ok)) = some v ∧
          v.flights j = some ⟨g.request, .running true u.now⟩ ∧
          v.table g.request.key = some (pendingRow g.request.hash createdAt)
  /-- When every run of a key answers 2xx, who enters the handler is the first
  to do so, and beyond the first INSERT there is one who has. -/
  once : ∀ key as s,
    Run (step m sha256Hex) (fun s a => guard s a ∧ Answers2xx key s a) (init start) as s →
    (∀ a t i g, guard s a → Answers2xx key s a → step m sha256Hex s a = some t →
      EntersHandler s t i → t.flights i = some g → g.request.key = key →
      ∀ j f, s.flights j = some f → f.request.key = key → f.phase.hasRun = false) ∧
    ∀ i f, s.flights i = some f → f.request.key = key → f.phase.beforeInsert = false →
      ∃ j g, s.flights j = some g ∧ g.request.key = key ∧ g.phase.hasRun = true

section CoreLaw

variable {m : IdempotencyMiddleware} {sha256Hex : String → String} {start : Int} {s t u : State}
  {i j : Nat} {f g : Flight}

theorem window_replays {status : Int} {body : String} {bs : List Action} (hs : Core start s)
    (hf : s.flights i = some f) (hphase : f.phase = .recording (.answered status body))
    (h2xx : (HandlerResult.answered status body).is2xx = true)
    (hwindow : InWindow m start s (.move i (.record .ok)))
    (hstep : step m sha256Hex s (.move i (.record .ok)) = some t)
    (hrun : Run (step m sha256Hex) (InWindow m start) t bs u) (habsent : t.flights j = none)
    (hg : u.flights j = some g) (hkey : g.request.key = f.request.key) :
    (∀ owner since, g.phase ≠ .running owner since) ∧
      ∀ reply, g.phase = .done reply →
        reply = if g.request.hash = f.request.hash then .replayed status body else reusedKey := by
  obtain ⟨row, hcompleted, hhash, hstatus, hbody, hsettled⟩ :=
    recorded_settled hs.owned hf hphase h2xx hstep
  have ht := core_step hstep hwindow hs
  have hrow : start ≤ row.createdAt := ht.fresh.rows _ row hsettled.kept
  have hrun' := hrun.strengthen ht fun _ _ _ hwindow hstep hs => core_step hstep hwindow hs
  have hlate := (settled_run hrun' (fun s a h =>
    ⟨h.1.db, h.2.fresh.noTakeover, by have := h.1.ttl; omega⟩) hcompleted hsettled).late j g
    (by simp [habsent]) hg hkey
  constructor
  · intro owner since hrunning
    rw [hrunning] at hlate
    exact hlate
  · intro reply hdone
    rw [hdone] at hlate
    obtain rfl : reply = answerFrom row g.request.hash := hlate
    by_cases hsame : g.request.hash = f.request.hash
    · simp [answerFrom, hhash, hsame, Row.scan, hstatus, hbody]
    · have hne : f.request.hash ≠ g.request.hash := fun h => hsame h.symm
      simp [answerFrom, hhash, hsame, hne]

theorem window_conflicts {row : Row} {bs : List Action} (hs : Core start s)
    (hf : s.flights i = some f) (hrow : s.table f.request.key = some row)
    (hpending : row.status = .pending) (hhash : row.requestHash = f.request.hash)
    (hstep : step m sha256Hex s (.move i (.get .ok)) = some t)
    (hrun : Run (step m sha256Hex) (InWindow m start) t bs u) :
    ∃ g, u.flights i = some g ∧ (∀ owner since, g.phase ≠ .running owner since) ∧
      ∀ reply, g.phase = .done reply → reply = inProgress := by
  have hwaits : Waits i f.request row.scan t := by
    cases step_stepped hstep with
    | @move _ f' _ table phase hf' hmoved =>
      obtain rfl := Option.some.inj (hf.symm.trans hf')
      refine ⟨_, State.put_same _ _ _, rfl, ?_⟩
      obtain ⟨req, old⟩ := f
      cases hmoved with
      | vanished hnone =>
        rw [hrow] at hnone
        cases hnone
      | loaded hread =>
        obtain rfl := Option.some.inj (hrow.symm.trans hread)
        exact .inl rfl
  obtain ⟨g, hg, -, hwait⟩ := waits_run hrun hhash hpending (hs.fresh.rows _ row hrow) hwaits
  refine ⟨g, hg, ?_, ?_⟩
  · intro owner since hrunning
    rw [hrunning] at hwait
    rcases hwait with h | h | h <;> cases h
  · intro reply hdone
    rw [hdone] at hwait
    rcases hwait with h | h | h <;> cases h
    rfl

theorem record_free {result : HandlerResult} (hf : s.flights i = some f)
    (hphase : f.phase = .recording result) (hfailed : result.is2xx = false)
    (hstep : step m sha256Hex s (.move i (.record .ok)) = some t) :
    t.table f.request.key = none := by
  cases step_stepped hstep with
  | @move _ f' _ table phase hf' hmoved =>
    obtain rfl := Option.some.inj (hf.symm.trans hf')
    rw [hphase] at hmoved
    cases hmoved with
    | recorded => exact recordResult_free hfailed

theorem runOnce_run {key : Key} {as : List Action}
    (hrun : Run (step m sha256Hex) (fun s a => InWindow m start s a ∧ Answers2xx key s a)
      (init start) as s) : RunOnce key s ∧ Core start s := by
  apply hrun.invariant
  · exact ⟨runOnce_init start, core_init start⟩
  · rintro s a t ⟨hwindow, hanswers⟩ hstep ⟨honce, hcore⟩
    exact ⟨runOnce_step hstep hwindow hcore.fresh hanswers honce, core_step hstep hwindow hcore⟩

end CoreLaw

end WhatsappGateway.Idempotency
