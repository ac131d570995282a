import WhatsappGateway.Middleware.IdempotencyTakeover

/-!
How long a winner may run. The age at which `replayOrReject` gives a pending row
up is one configured duration; how long the handler may take is the sum of two
others, the pacing limit and the send timeout. A running winner is safe exactly
when the first, and the TTL, are not below that sum.
-/

namespace WhatsappGateway.Idempotency

open Lib

/-- Every pending row belongs to a request still in `runAndRecord`. -/
def Attended (s : State) : Prop :=
  ∀ key row, s.table key = some row → row.status = .pending →
    ∃ i f, s.flights i = some f ∧ f.request.key = key ∧ f.phase.owns = true

theorem recordResult_status {key : Key} {result : HandlerResult} {table : Table} {row : Row}
    (h : recordResult key result table key = some row) : row.status = .completed := by
  unfold recordResult at h
  split at h
  · simp [delete] at h
  · split at h
    · simp only [complete, Function.update_self, Option.map_eq_some_iff] at h
      obtain ⟨old, -, rfl⟩ := h
      rfl
    · simp [delete] at h

/-- A pending row is left by a move of its new owner, or by one that has not
touched the table. -/
theorem Moved.pending_cases {m : IdempotencyMiddleware} {now : Int} {table table' : Table}
    {req : Request} {phase phase' : Phase} {mv : Move} {row : Row}
    (h : Moved m now table req phase mv table' phase') (hdb : mv.db = .ok)
    (hdeleting : phase ≠ .deleting) (hrow : table' req.key = some row)
    (hpending : row.status = .pending) :
    phase'.owns = true ∨ (table' = table ∧ phase.owns = false) := by
  cases h with
  | inserted _ => exact .inl rfl
  | ownerReturned => exact .inl rfl
  | insertFailedApplied => cases hdb
  | tookOver => exact absurd rfl hdeleting
  | @recorded result db =>
    obtain rfl : db = .ok := hdb
    rw [recordResult_status hrow] at hpending
    cases hpending
  | _ => exact .inr ⟨rfl, rfl⟩

theorem attended_init (now : Int) : Attended (init now) := by
  intro key row hrow
  cases hrow

theorem attended_step {m : IdempotencyMiddleware} {sha256Hex : String → String} {s t : State}
    {a : Action} (hstep : step m sha256Hex s a = some t) (hdb : NoDbError s a)
    (hcrash : NoCrash s a) (htake : NoTakeover s) (hs : Attended s) : Attended t := by
  cases step_stepped hstep with
  | tick _ => exact hs
  | crash _ _ => exact hcrash.elim
  | sweep _ =>
    intro key row hrow hpending
    exact hs key row (sweep_some.mp hrow).1 hpending
  | @arrive i c req habsent _ =>
    intro key row hrow hpending
    obtain ⟨j, g, hg, hkey, howns⟩ := hs key row hrow hpending
    have hji : j ≠ i := by
      rintro rfl
      rw [habsent] at hg
      cases hg
    exact ⟨j, g, by rw [State.put_other _ _ _ _ hji]; exact hg, hkey, howns⟩
  | @move i f mv table phase hf hmoved =>
    have hold : ∀ key row, s.table key = some row → row.status = .pending →
        (key = f.request.key → f.phase.owns = false) →
        ∃ j g, (({ s with table := table } : State).put i ⟨f.request, phase⟩).flights j
          = some g ∧ g.request.key = key ∧ g.phase.owns = true := by
      intro key row hrow hpending hmover
      obtain ⟨j, g, hg, hkey, howns⟩ := hs key row hrow hpending
      have hji : j ≠ i := by
        rintro rfl
        obtain rfl := Option.some.inj (hf.symm.trans hg)
        rw [hmover hkey.symm] at howns
        cases howns
      exact ⟨j, g, by rw [State.put_other _ _ _ _ hji]; exact hg, hkey, howns⟩
    intro key row hrow hpending
    by_cases hkey : key = f.request.key
    · subst hkey
      rcases hmoved.pending_cases hdb (htake i f hf) hrow hpending with howns | ⟨hsame, hfowns⟩
      · exact ⟨i, _, State.put_same _ _ _, rfl, howns⟩
      · subst hsame
        exact hold _ row hrow hpending fun _ => hfowns
    · have hrow' : s.table key = some row := by
        rw [← hmoved.frame hkey]
        exact hrow
      exact hold key row hrow' hpending fun h => absurd h hkey

/-- The longest a handler runs: it is paced, and then it sends. -/
def handlerLimit (cfg : Config) : Int :=
  Duration.seconds cfg.outboundPaceMaxWaitSeconds + Duration.seconds cfg.sendTimeoutSeconds

/-- No handler in flight has run for more than `limit`. -/
def HandlersWithin (limit : Int) (s : State) (_ : Action) : Prop :=
  ∀ i f owner since, s.flights i = some f → f.phase = .running owner since →
    s.now - since ≤ limit

/-- The phases in which time passes: not between two statements. -/
def Phase.takesTime : Phase → Bool
  | .arrived => true
  | .running _ _ => true
  | .done _ => true
  | .crashed => true
  | _ => false

/-- The clock moves only while every request is in such a phase. -/
def StatementsInstant (s : State) : Action → Prop
  | .tick _ => ∀ i f, s.flights i = some f → f.phase.takesTime = true
  | _ => True

/-- Every read finds a row, and no completed row is read after its TTL. -/
def FindsUnexpired (m : IdempotencyMiddleware) (s : State) : Action → Prop
  | .move i (.get _) => ∀ f ∈ s.flights i, (s.table f.request.key).isSome
  | .move i .testExpired => ∀ f ∈ s.flights i, ∀ rec ∈ f.phase.readRecord,
      rec.status = .completed → s.now - rec.createdAt ≤ m.ttl
  | _ => True

/-- The assumptions under which the timeouts alone decide. -/
structure Prompt (m : IdempotencyMiddleware) (limit : Int) (s : State) (a : Action) : Prop where
  db : NoDbError s a
  crash : NoCrash s a
  handlers : HandlersWithin limit s a
  statements : StatementsInstant s a
  finds : FindsUnexpired m s a

/-- What a request of a prompt run knows of the age of a row. -/
def InTime (limit now : Int) (table : Table) (key : Key) : Phase → Prop
  | .inserting createdAt => createdAt = now
  | .loaded rec => rec.status = .pending → now - rec.createdAt ≤ limit
  | .unexpired rec => rec.status = .pending → now - rec.createdAt ≤ limit
  | .running true since => ∀ row, table key = some row → row.createdAt = since
  | .recording _ => ∀ row, table key = some row → now - row.createdAt ≤ limit
  | _ => True

def AllInTime (limit : Int) (s : State) : Prop :=
  ∀ i f, s.flights i = some f → InTime limit s.now s.table f.request.key f.phase

section Prompt

variable {m : IdempotencyMiddleware} {sha256Hex : String → String} {limit : Int}
  {s t : State} {a : Action}

theorem InTime.of_table {now : Int} {table table' : Table} {key : Key} {phase : Phase}
    (h : InTime limit now table key phase)
    (htable : phase.owns = true → ∀ row, table' key = some row → table key = some row) :
    InTime limit now table' key phase := by
  cases phase with
  | running owner since =>
    cases owner with
    | false => trivial
    | true => exact fun row hrow => h row (htable rfl row hrow)
  | recording result => exact fun row hrow => h row (htable rfl row hrow)
  | _ => exact h

theorem InTime.of_takesTime {now now' : Int} {table : Table} {key : Key} {phase : Phase}
    (h : InTime limit now table key phase) (htime : phase.takesTime = true) :
    InTime limit now' table key phase := by
  cases phase with
  | running owner since =>
    cases owner with
    | false => trivial
    | true => exact h
  | arrived => trivial
  | done _ => trivial
  | crashed => trivial
  | _ => cases htime

/-- The row of an owner is at most `limit` old. -/
theorem AllInTime.row_age {i : Nat} {f : Flight} {row : Row} (hs : AllInTime limit s)
    (hwithin : HandlersWithin limit s a) (hf : s.flights i = some f)
    (howns : f.phase.owns = true) (hrow : s.table f.request.key = some row) :
    s.now - row.createdAt ≤ limit := by
  have htime := hs i f hf
  cases hphase : f.phase with
  | running owner since =>
    cases owner with
    | false => rw [hphase] at howns; cases howns
    | true =>
      rw [hphase] at htime
      have hsince : row.createdAt = since := htime row hrow
      have hrun := hwithin i f true since hf hphase
      omega
  | recording result =>
    rw [hphase] at htime
    exact htime row hrow
  | _ => rw [hphase] at howns; cases howns

/-- The mover of a prompt step is in time again. -/
theorem inTime_moved {i : Nat} {f : Flight} {mv : Move} {table : Table} {phase : Phase}
    (hf : s.flights i = some f)
    (hmoved : Moved m s.now s.table f.request f.phase mv table phase)
    (hwithin : HandlersWithin limit s a) (hattended : Attended s) (hs : AllInTime limit s) :
    InTime limit s.now table f.request.key phase := by
  have hmine := hs i f hf
  obtain ⟨req, old⟩ := f
  cases hmoved with
  | stamped => exact rfl
  | @inserted createdAt hnone =>
    intro row hrow
    simp only [Function.update_self, Option.some.injEq] at hrow
    subst hrow
    exact hmine
  | @loaded row hrow =>
    intro hpending
    obtain ⟨j, g, hg, hkey, howns⟩ := hattended req.key row hrow hpending
    exact hs.row_age hwithin hg howns (by rw [hkey]; exact hrow)
  | unexpired _ => exact hmine
  | ownerReturned =>
    intro row hrow
    exact hs.row_age hwithin hf rfl hrow
  | _ => trivial

theorem allInTime_step (hstep : step m sha256Hex s a = some t) (hprompt : Prompt m limit s a)
    (hspares : SparesOwners s a) (howned : Owned s) (hattended : Attended s)
    (hs : AllInTime limit s) : AllInTime limit t := by
  intro j g hg
  cases step_stepped hstep with
  | tick _ => exact (hs j g hg).of_takesTime (hprompt.statements j g hg)
  | sweep _ => exact (hs j g hg).of_table fun _ row hrow => (sweep_some.mp hrow).1
  | crash _ _ => exact hprompt.crash.elim
  | arrive _ _ =>
    rcases State.put_flight hg with ⟨-, rfl⟩ | ⟨-, hg⟩
    · trivial
    · exact hs j g hg
  | move hf hmoved =>
    rcases State.put_flight hg with ⟨-, rfl⟩ | ⟨hji, hg⟩
    · have hmover := inTime_moved hf hmoved hprompt.handlers hattended hs
      exact hmover
    · refine (hs j g hg).of_table fun howns row hrow => ?_
      obtain ⟨kept, hkept, -⟩ := howned.row j g hg howns
      have hstays := howned.keeps_other hf hmoved hspares hji hg howns hkept
      rw [State.put_table] at hrow
      obtain rfl := Option.some.inj (hstays.symm.trans hrow)
      exact hkept

/-- With timeouts not below the limit, the steps of a prompt run are orderly. -/
theorem prompt_orderly (hpending : limit ≤ m.pendingTimeout) (httl : limit ≤ m.ttl)
    (hstep : step m sha256Hex s a = some t) (hprompt : Prompt m limit s a)
    (hstray : NoStray s) (hs : AllInTime limit s) : Orderly m s a := by
  refine ⟨hprompt.db, ?_, ?_⟩
  · unfold FindsLiveRow
    split
    · exact hprompt.finds
    · next i =>
      intro f hf rec hrec
      cases hstatus : rec.status with
      | completed => exact hprompt.finds f hf rec hrec hstatus
      | pending =>
        have htime := hs i f hf
        obtain ⟨req, phase⟩ := f
        cases phase with
        | loaded read => cases hrec; exact Int.le_trans (htime hstatus) httl
        | unexpired read => cases hrec; exact Int.le_trans (htime hstatus) httl
        | _ => cases hrec
    · next i =>
      intro f hf rec hrec _ hstatus
      have htime := hs i f hf
      obtain ⟨req, phase⟩ := f
      cases phase with
      | loaded read => cases hrec; exact Int.le_trans (htime hstatus) hpending
      | unexpired read => cases hrec; exact Int.le_trans (htime hstatus) hpending
      | _ => cases hrec
    · trivial
  · cases step_stepped hstep with
    | @move i f mv _ _ hf hmoved =>
      cases mv with
      | takeOver db =>
        intro f hf hdeleting
        exact absurd hdeleting (hstray i f hf).1
      | _ => trivial
    | @sweep cutoff hcutoff =>
      intro j g row hg howns hrow
      have hage := hs.row_age hprompt.handlers hg howns hrow
      omega
    | _ => trivial

/-- What holds in every state of a prompt run under such timeouts. -/
structure Timely (limit : Int) (s : State) : Prop where
  owned : Owned s
  noStray : NoStray s
  attended : Attended s
  inTime : AllInTime limit s

theorem timely_init (limit start : Int) : Timely limit (init start) := by
  refine ⟨owned_init start, ?_, attended_init start, ?_⟩
  · intro i f hf
    cases hf
  · intro i f hf
    cases hf

theorem timely_step (hpending : limit ≤ m.pendingTimeout) (httl : limit ≤ m.ttl)
    (hstep : step m sha256Hex s a = some t) (hprompt : Prompt m limit s a)
    (hs : Timely limit s) : Timely limit t := by
  have horderly := prompt_orderly hpending httl hstep hprompt hs.noStray hs.inTime
  have ⟨howned, hstray⟩ := orderly_step horderly hstep ⟨hs.owned, hs.noStray⟩
  exact ⟨howned, hstray,
    attended_step hstep hprompt.db hprompt.crash hs.noStray.noTakeover hs.attended,
    allInTime_step hstep hprompt horderly.2.2 hs.owned hs.attended hs.inTime⟩

theorem prompt_run {start : Int} {as : List Action} (hpending : limit ≤ m.pendingTimeout)
    (httl : limit ≤ m.ttl)
    (hrun : Run (step m sha256Hex) (Prompt m limit) (init start) as s) : OneHandler s := by
  have hs : Timely limit s := hrun.invariant (timely_init limit start)
    fun _ _ _ hprompt hstep hs => timely_step hpending httl hstep hprompt hs
  exact oneHandler_of_owned hs.owned hs.noStray

end Prompt

/-- Whoever enters the handler in a guarded run enters it alone: no request of
its key is still in there. -/
def NeverOvertaken (m : IdempotencyMiddleware) (sha256Hex : String → String)
    (guard : State → Action → Prop) : Prop :=
  ∀ start as s a t i, Run (step m sha256Hex) guard (init start) as s → guard s a →
    step m sha256Hex s a = some t → EntersHandler s t i →
    ∀ j f g owner since, s.flights j = some f → f.phase = .running owner since →
      t.flights i = some g → f.request.key ≠ g.request.key

theorem neverOvertaken_of_oneHandler {m : IdempotencyMiddleware} {sha256Hex : String → String}
    {guard : State → Action → Prop}
    (hone : ∀ start as s, Run (step m sha256Hex) guard (init start) as s → OneHandler s) :
    NeverOvertaken m sha256Hex guard := by
  intro start as s a t i hrun hguard hstep henters j f g owner since hf hphase hg hkey
  obtain ⟨⟨g', owner', since', hg', hphase'⟩, hfresh⟩ := henters
  obtain rfl := Option.some.inj (hg.symm.trans hg')
  have hji : j ≠ i := by
    rintro rfl
    exact hfresh f owner since hf hphase
  -- the step is a move of request `i`, so request `j` is where it was
  have hf' : t.flights j = some f := by
    rcases flight_cases hstep hg with hold | ⟨-, harrived, -⟩ | ⟨f', -, -, rfl⟩ | hmove
    · exact absurd hphase' (hfresh g owner' since' hold)
    · rw [hphase'] at harrived
      cases harrived
    · cases hphase'
    · obtain ⟨_, mv, rfl, -⟩ := hmove
      cases step_stepped hstep with
      | move _ _ => rw [State.put_other _ _ _ _ hji]; exact hf
  exact hji (hone start _ t (hrun.append (.single hguard hstep)) j i f g owner owner' since
    since' hf' hg hphase hphase' hkey)

/-- Orderly runs need no bound on the handlers. -/
theorem orderly_never_overtaken (m : IdempotencyMiddleware) (sha256Hex : String → String) :
    NeverOvertaken m sha256Hex (Orderly m) :=
  neverOvertaken_of_oneHandler fun _ _ _ hrun =>
    have ⟨howned, hstray⟩ := orderly_run hrun
    oneHandler_of_owned howned hstray

section Overtaken

variable {m : IdempotencyMiddleware} {sha256Hex : String → String} {limit : Int}

/-- The request of `sampleSend` for a digest left open. -/
def sampleKeyed (sha256Hex : String → String) : Request :=
  ⟨⟨"628111", "k1"⟩, sha256Hex "POST\n/message/text\na"⟩

theorem handlerKey_sampleSend :
    handlerKey sha256Hex (sampleSend "a") = some (sampleKeyed sha256Hex) := rfl

/-- A retry that finds the row of the request still in the handler too old. -/
def overtake (late : Int) (judged : List Action) : List Action :=
  arriveAndInsert 0 "a" ++ [.tick late] ++ arriveAndInsert 1 "a" ++
    [.move 1 (.get .ok), .move 1 .testExpired] ++ judged

/-- `Prompt`, but with the clock bounded instead of the handlers. -/
def Calm (m : IdempotencyMiddleware) (limit : Int) (s : State) (a : Action) : Prop :=
  NoDbError s a ∧ NoCrash s a ∧ StatementsInstant s a ∧ FindsUnexpired m s a ∧ s.now ≤ limit

/-- Up to the TTL test: the retry has read the row of the request still in the handler. -/
theorem overtake_loaded (m : IdempotencyMiddleware) (sha256Hex : String → String)
    {late : Int} (hlate : 0 ≤ late) (hlimit : late ≤ limit) :
    ∃ s, Run (step m sha256Hex) (Calm m limit) (init 0)
        (arriveAndInsert 0 "a" ++ [.tick late] ++ arriveAndInsert 1 "a" ++ [.move 1 (.get .ok)]) s ∧
      s.now = late ∧ s.flights 0 = some ⟨sampleKeyed sha256Hex, .running true 0⟩ ∧
      s.flights 1 = some ⟨sampleKeyed sha256Hex,
        .loaded (pendingRow (sampleKeyed sha256Hex).hash 0).scan⟩ := by
  have hstart : 0 ≤ limit := by omega
  have hreads : ∃ s, exec (step m sha256Hex) (init 0) (arriveAndInsert 0 "a" ++ [.tick late] ++
        arriveAndInsert 1 "a" ++ [.move 1 (.get .ok)]) = some s ∧
      Guarded (step m sha256Hex) (Calm m limit) (init 0) (arriveAndInsert 0 "a" ++ [.tick late] ++
        arriveAndInsert 1 "a" ++ [.move 1 (.get .ok)]) ∧
      s.now = late ∧ s.flights 0 = some ⟨sampleKeyed sha256Hex, .running true 0⟩ ∧
      s.flights 1 = some ⟨sampleKeyed sha256Hex,
        .loaded (pendingRow (sampleKeyed sha256Hex).hash 0).scan⟩ := by
    simp [exec, Guarded, Calm, NoDbError, NoCrash, StatementsInstant, FindsUnexpired, Move.db,
      Phase.takesTime, arriveAndInsert, step, handlerKey_sampleSend, advance, tryInsertPending,
      get, State.put, init, sampleKeyed, Function.update_apply, hlate, hstart, hlimit]
  obtain ⟨s, hexec, hguard, hs⟩ := hreads
  exact ⟨s, Run.of_exec hexec hguard, hs⟩

theorem overtake_deleting (m : IdempotencyMiddleware) (sha256Hex : String → String)
    {late : Int} {judged : List Action} (hlate : 0 ≤ late)
    (hlimit : late ≤ limit)
    (hold : (judged = [] ∧ m.ttl < late) ∨
      (judged = [.move 1 .judge] ∧ late ≤ m.ttl ∧ m.pendingTimeout < late)) :
    ∃ s, Run (step m sha256Hex) (Calm m limit) (init 0) (overtake late judged) s ∧
      s.now ≤ limit ∧ s.flights 0 = some ⟨sampleKeyed sha256Hex, .running true 0⟩ ∧
      s.flights 1 = some ⟨sampleKeyed sha256Hex, .deleting⟩ := by
  obtain ⟨s, hrun, rfl, hwinner, hretry⟩ := overtake_loaded m sha256Hex hlate hlimit
  have hcalm : Calm m limit s (.move 1 .testExpired) := by
    refine ⟨rfl, trivial, trivial, ?_, hlimit⟩
    intro f hf rec hrec
    obtain rfl := Option.some.inj (hretry.symm.trans hf)
    obtain rfl := Option.some.inj hrec
    rintro ⟨⟩
  rcases hold with ⟨rfl, httl⟩ | ⟨rfl, httl, hpending⟩
  · have hstep : step m sha256Hex s (.move 1 .testExpired) =
        some (s.put 1 ⟨sampleKeyed sha256Hex, .deleting⟩) := by
      simp [step, hretry, advance, pendingRow, Row.scan, httl]
    refine ⟨_, hrun.append (.single hcalm hstep), hlimit, ?_, State.put_same _ _ _⟩
    rw [State.put_other _ _ _ _ (by decide)]
    exact hwinner
  · have hstep : step m sha256Hex s (.move 1 .testExpired) = some (s.put 1
        ⟨sampleKeyed sha256Hex, .unexpired (pendingRow (sampleKeyed sha256Hex).hash 0).scan⟩) := by
      simp [step, hretry, advance, pendingRow, Row.scan, Int.not_lt.mpr httl]
    have hjudge : step m sha256Hex (s.put 1 ⟨sampleKeyed sha256Hex,
        .unexpired (pendingRow (sampleKeyed sha256Hex).hash 0).scan⟩) (.move 1 .judge) =
        some (s.put 1 ⟨sampleKeyed sha256Hex, .deleting⟩) := by
      simp [step, State.put, advance, judge, pendingRow, Row.scan, hpending]
    have hcalm' : Calm m limit (s.put 1 ⟨sampleKeyed sha256Hex,
        .unexpired (pendingRow (sampleKeyed sha256Hex).hash 0).scan⟩) (.move 1 .judge) :=
      ⟨rfl, trivial, trivial, trivial, hlimit⟩
    refine ⟨_, hrun.append (.cons hcalm hstep (.single hcalm' hjudge)), hlimit, ?_, State.put_same _ _ _⟩
    rw [State.put_other _ _ _ _ (by decide)]
    exact hwinner

theorem Moved.running_since {now : Int} {table table' : Table} {req : Request} {phase : Phase}
    {mv : Move} {owner : Bool} {since : Int}
    (h : Moved m now table req phase mv table' (.running owner since)) : since = now := by
  cases h <;> rfl

/-- The clock, and every handler in flight, started at `start` or later. -/
def StartedFrom (start : Int) (s : State) : Prop :=
  start ≤ s.now ∧ ∀ i f owner since, s.flights i = some f → f.phase = .running owner since →
    start ≤ since

theorem startedFrom_step {start : Int} {s t : State} {a : Action}
    (hstep : step m sha256Hex s a = some t) (hs : StartedFrom start s) :
    StartedFrom start t := by
  have hnow : s.now ≤ t.now := by
    cases step_stepped hstep with
    | tick hd => exact Int.le_add_of_nonneg_right hd
    | _ => exact Int.le_refl _
  refine ⟨Int.le_trans hs.1 hnow, ?_⟩
  intro i g owner since hg hphase
  rcases flight_cases hstep hg with hold | ⟨-, harrived, -⟩ | ⟨f, -, -, rfl⟩ | hmove
  · exact hs.2 i g owner since hold hphase
  · rw [hphase] at harrived
    cases harrived
  · cases hphase
  · obtain ⟨f, mv, -, -, -, hmoved⟩ := hmove
    rw [hphase] at hmoved
    rw [hmoved.running_since]
    exact hs.1

theorem startedFrom_init (start : Int) : StartedFrom start (init start) := by
  refine ⟨Int.le_refl start, ?_⟩
  intro i f owner since hf
  cases hf

theorem Calm.prompt {s : State} {a : Action} (hs : StartedFrom 0 s) (h : Calm m limit s a) :
    Prompt m limit s a := by
  obtain ⟨hdb, hcrash, hinstant, hfinds, hnow⟩ := h
  refine ⟨hdb, hcrash, ?_, hinstant, hfinds⟩
  intro i f owner since hf hphase
  have hsince := hs.2 i f owner since hf hphase
  omega

/-- A timeout below the limit lets a retry take a running winner over. -/
theorem overtaken_of_short (m : IdempotencyMiddleware) (sha256Hex : String → String)
    {limit : Int} (hshort : m.pendingTimeout < limit ∨ m.ttl < limit) :
    ¬ NeverOvertaken m sha256Hex (Prompt m limit) := by
  intro hnever
  have hpos := m.pendingTimeout_pos
  have hpos' := m.ttl_pos
  obtain ⟨late, judged, hlate, hlimit, hold⟩ : ∃ (late : Int) (judged : List Action),
      0 ≤ late ∧ late ≤ limit ∧ ((judged = [] ∧ m.ttl < late) ∨
        (judged = [.move 1 .judge] ∧ late ≤ m.ttl ∧ m.pendingTimeout < late)) := by
    by_cases horder : m.ttl ≤ m.pendingTimeout
    · exact ⟨m.ttl + 1, [], by omega, by omega, .inl ⟨rfl, by omega⟩⟩
    · exact ⟨m.pendingTimeout + 1, [.move 1 .judge], by omega, by omega,
        .inr ⟨rfl, by omega, by omega⟩⟩
  obtain ⟨s, hcalm, hnow, hwinner, hretry⟩ := overtake_deleting m sha256Hex hlate hlimit hold
  have hrun := (hcalm.strengthen (startedFrom_init 0)
    fun _ _ _ _ hstep hs => startedFrom_step hstep hs).mono fun _ _ h => Calm.prompt h.2 h.1
  have hstarted := hcalm.invariant (startedFrom_init 0)
    fun _ _ _ _ hstep hs => startedFrom_step hstep hs
  have hprompt : Prompt m limit s (.move 1 (.takeOver .ok)) :=
    Calm.prompt hstarted ⟨rfl, trivial, trivial, trivial, hnow⟩
  obtain ⟨t, hstep, ht⟩ : ∃ t, step m sha256Hex s (.move 1 (.takeOver .ok)) = some t ∧
      t.flights 1 = some ⟨sampleKeyed sha256Hex, .running false s.now⟩ := by
    simp [step, hretry, advance]
  have henters : EntersHandler s t 1 := by
    refine ⟨⟨_, false, s.now, ht, rfl⟩, ?_⟩
    intro f owner since hf hphase
    obtain rfl := Option.some.inj (hretry.symm.trans hf)
    cases hphase
  exact hnever 0 _ s _ t 1 hrun hprompt hstep henters 0 _ _ true 0 hwinner rfl ht rfl

end Overtaken

end WhatsappGateway.Idempotency
