import Mathlib.Data.List.Perm.Basic
import WhatsappGateway.Lib.Run
import WhatsappGateway.Queue.RabbitMQ

/-!
No stop channel is closed twice. A pool is shut down by whoever has read it from
`workerPool`, so it must not be read again: not by a later restart, and not by
`Shutdown`. The invariant says that an installed pool is untouched unless a
goroutine is known to have read it.
-/

namespace WhatsappGateway.RabbitMQ

open Lib

/-- The pool that a restart in progress has read. -/
@[grind] def Monitor.old : Monitor → Option Nat
  | .stopping old _ | .starting old _ => old
  | _ => none

@[grind] def Monitor.fresh : Monitor → Option Nat
  | .starting _ start => some start.fresh
  | _ => none

@[grind] def Starter.fresh : Starter → Option Nat
  | .starting start => some start.fresh
  | .idle => none

@[grind] def Closer.pool : Closer → Option Nat
  | .stopping pool _ => some pool
  | _ => none

/-- No stop channel of the pool has been closed. -/
@[grind] def Clean (pool : WorkerPool) : Prop := ∀ group ∈ pool, group.closes = 0

/-- Those of `remaining` have not been closed. -/
structure Pending (pool : WorkerPool) (remaining : List Nat) : Prop where
  nodup : remaining.Nodup
  unclosed : ∀ k ∈ remaining, ∀ group, pool[k]? = some group → group.closes = 0

@[grind] def State.Builds (s : State) (pool : Nat) : Prop :=
  s.monitor.fresh = some pool ∨ s.starter.fresh = some pool

/-- A goroutine has read the pool in order to shut it down. -/
@[grind] def State.Stops (s : State) (pool : Nat) : Prop :=
  s.monitor.old = some pool ∨ s.closer.pool = some pool

structure OnceClosed (s : State) : Prop where
  alive : s.crashed = false
  closes : ∀ pool, ∀ group ∈ s.pools pool, group.closes ≤ 1

structure Inv (s : State) : Prop extends OnceClosed s where
  known : ∀ pool, s.Builds pool ∨ s.Stops pool ∨ s.workerPool = some pool → pool < s.made
  fresh : ∀ pool, s.Builds pool →
    Clean (s.pools pool) ∧ ¬ s.Stops pool ∧ s.workerPool ≠ some pool
  apart : ∀ pool, s.monitor.fresh = some pool → s.starter.fresh ≠ some pool
  /-- What `Shutdown` or a restart would read now. -/
  installed : ∀ pool, s.workerPool = some pool → s.monitor.old ≠ some pool →
    s.closer = .idle ∨ s.closer = .signalled → Clean (s.pools pool)
  oldPending : ∀ old remaining, s.monitor = .stopping (some old) remaining →
    Pending (s.pools old) remaining
  poolPending : ∀ pool remaining, s.closer = .stopping pool remaining →
    Pending (s.pools pool) remaining
  exclusive : ∀ pool, s.monitor.old = some pool → s.closer.pool ≠ some pool
  closing : s.closer ≠ .idle → s.closing = true

/-- The step leaves the pool that a restart in progress has read to that restart: it is not
the installed one when `Shutdown` reads it, nor when the restart fails to start a consumer
and will be tried again. -/
def NoSecondReader (s : State) : Action → Prop
  | .monitor (.group _ false) | .readPool =>
    s.monitor.old = none ∨ s.workerPool ≠ s.monitor.old
  | _ => True

instance NoSecondReader.decidable (s : State) : ∀ a, Decidable (NoSecondReader s a)
  | .monitor (.group _ false) | .readPool =>
    inferInstanceAs (Decidable (s.monitor.old = none ∨ s.workerPool ≠ s.monitor.old))
  | .monitor (.group _ true) | .monitor .install | .startWorkers _ | .starter _
  | .connectionClosed _ | .stopRequested | .reconnect _ | .restart | .stopOld _ | .startNew
  | .shutdown | .stopPool _ | .finish => inferInstanceAs (Decidable True)

theorem not_installed {s : State} (h : s.monitor.old = none ∨ s.workerPool ≠ s.monitor.old) :
    ∀ pool, s.monitor.old = some pool → s.workerPool ≠ some pool := by
  intro pool hold hpool
  obtain hnone | hne := h
  · simp [hnone] at hold
  · exact hne (hpool.trans hold.symm)

theorem clean_pending {pool : WorkerPool} (hclean : Clean pool) :
    Pending pool (List.range pool.length) where
  nodup := List.nodup_range
  unclosed _ _ group hget := hclean group (List.mem_of_getElem? hget)

theorem inv_init : Inv init := by
  constructor
  · exact ⟨rfl, by simp [init]⟩
  all_goals simp [init, State.Builds, State.Stops, Monitor.old, Monitor.fresh, Starter.fresh,
    Closer.pool]

section Ops

variable {s : State}

/-! Closing a stop channel changes one pool, and no other field but `crashed`. -/

@[simp] theorem State.close_workerPool (pool group : Nat) :
    (s.close pool group).workerPool = s.workerPool := rfl

@[simp] theorem State.close_made (pool group : Nat) : (s.close pool group).made = s.made := rfl

@[simp] theorem State.close_closing (pool group : Nat) :
    (s.close pool group).closing = s.closing := rfl

@[simp] theorem State.close_monitor (pool group : Nat) :
    (s.close pool group).monitor = s.monitor := rfl

@[simp] theorem State.close_starter (pool group : Nat) :
    (s.close pool group).starter = s.starter := rfl

@[simp] theorem State.close_closer (pool group : Nat) :
    (s.close pool group).closer = s.closer := rfl

theorem State.close_other {pool group other : Nat} (hother : other ≠ pool) :
    (s.close pool group).pools other = s.pools other := by
  simp [State.close, hother]

/-- A pool that is being built may get another group. -/
theorem inv_addGroup (h : Inv s) {pool : Nat} (hbuilds : s.Builds pool) (queueName : String) :
    Inv (s.addGroup pool queueName) := by
  obtain ⟨⟨alive, closes⟩, known, fresh, apart, installed, oldPending, poolPending, exclusive,
    closing⟩ := h
  constructor
  · refine ⟨alive, ?_⟩
    simp only [State.addGroup]
    grind
  all_goals simp only [State.addGroup]
  all_goals grind

/-- The caller of `StartWorkers` may move on, or give its pool up. -/
theorem inv_starter (h : Inv s) {starter : Starter}
    (hfresh : ∀ pool, starter.fresh = some pool → s.starter.fresh = some pool) :
    Inv { s with starter } := by
  obtain ⟨once, known, fresh, apart, installed, oldPending, poolPending, exclusive, closing⟩ := h
  constructor
  · exact ⟨once.alive, once.closes⟩
  all_goals simp only
  all_goals grind

/-- So may the monitor, unless it forgets that the installed pool has been stopped. -/
theorem inv_monitor (h : Inv s) {monitor : Monitor}
    (hfresh : ∀ pool, monitor.fresh = some pool → s.monitor.fresh = some pool)
    (hold : monitor.old = s.monitor.old ∨ monitor.old = none ∧
      ∀ pool, s.monitor.old = some pool → s.workerPool ≠ some pool)
    (hpending : ∀ old remaining, monitor = .stopping (some old) remaining →
      Pending (s.pools old) remaining) :
    Inv { s with monitor } := by
  obtain ⟨once, known, fresh, apart, installed, oldPending, poolPending, exclusive, closing⟩ := h
  constructor
  · exact ⟨once.alive, once.closes⟩
  all_goals simp only
  all_goals grind

/-- Closing a channel that is still pending. -/
theorem close_pending {pool group k : Nat} {remaining : List Nat}
    (hpending : Pending (s.pools pool) remaining) (hget : remaining[k]? = some group) :
    Pending ((s.close pool group).pools pool) (remaining.eraseIdx k) := by
  obtain ⟨hk, hgroup⟩ := List.getElem?_eq_some_iff.mp hget
  have hperm := List.getElem_cons_eraseIdx_perm hk
  have hcons : (remaining[k] :: remaining.eraseIdx k).Nodup := hperm.nodup_iff.mpr hpending.nodup
  obtain ⟨hnotMem, hnodup⟩ := List.nodup_cons.mp hcons
  refine ⟨hnodup, ?_⟩
  intro other hmem found hfound
  have hne : group ≠ other := by
    rintro rfl
    exact hnotMem (hgroup ▸ hmem)
  simp only [State.close, Function.update_self, List.getElem?_modify, hne, if_false,
    Option.map_eq_map, Option.map_id'] at hfound
  exact hpending.unclosed other (List.mem_of_mem_eraseIdx hmem) found hfound

theorem close_once {pool group k : Nat} {remaining : List Nat} (honce : OnceClosed s)
    (hpending : Pending (s.pools pool) remaining) (hget : remaining[k]? = some group) :
    OnceClosed (s.close pool group) := by
  have hunclosed := hpending.unclosed group (List.mem_of_getElem? hget)
  constructor
  · have hnone : ((s.pools pool)[group]?.any fun g => 0 < g.closes) = false := by
      cases hfound : (s.pools pool)[group]? with
      | none => rfl
      | some found => simp [hunclosed found hfound]
    simp [State.close, honce.alive, hnone]
  · intro other found hmem
    by_cases hother : other = pool
    · subst hother
      obtain ⟨k, hfound⟩ := List.mem_iff_getElem?.mp hmem
      simp only [State.close, Function.update_self, List.getElem?_modify] at hfound
      obtain ⟨before, hbefore, rfl⟩ := Option.map_eq_some_iff.mp hfound
      have hle := honce.closes other before (List.mem_of_getElem? hbefore)
      split
      · rename_i heq
        have hzero := hunclosed before (heq ▸ hbefore)
        simp [hzero]
      · exact hle
    · simp only [State.close, Function.update_of_ne hother] at hmem
      exact honce.closes other found hmem

/-- A pool which nobody has read is stopped from its first group on. -/
theorem groups_pending {pool : Nat} (hclean : Clean (s.pools pool)) :
    Pending (s.pools pool) (s.groups (some pool)) :=
  clean_pending hclean

end Ops

section Threads

variable {s t : State}

theorem inv_startWorkers {dlqHandler : Bool} (h : Inv s)
    (hstep : startWorkers s dlqHandler = some t) : Inv t := by
  obtain ⟨⟨alive, closes⟩, known, fresh, apart, installed, oldPending, poolPending, exclusive,
    closing⟩ := h
  simp only [startWorkers, State.begin] at hstep
  split at hstep
  · obtain rfl := Option.some.inj hstep
    constructor
    · refine ⟨alive, ?_⟩
      simp only
      grind
    all_goals simp only
    all_goals grind
  · cases hstep

/-- A pool that has been built may be installed by the caller of `StartWorkers`. -/
theorem inv_starter_install (h : Inv s) {pool : Nat} (hfresh : s.starter.fresh = some pool) :
    Inv { s with workerPool := some pool, starter := .idle } := by
  obtain ⟨once, known, fresh, apart, installed, oldPending, poolPending, exclusive, closing⟩ := h
  constructor
  · exact ⟨once.alive, once.closes⟩
  all_goals simp only
  all_goals grind

theorem inv_monitor_install (h : Inv s) {pool : Nat} (hfresh : s.monitor.fresh = some pool) :
    Inv { s with workerPool := some pool, monitor := .watching } := by
  obtain ⟨once, known, fresh, apart, installed, oldPending, poolPending, exclusive, closing⟩ := h
  constructor
  · exact ⟨once.alive, once.closes⟩
  all_goals simp only
  all_goals grind

/-- What `startConsumers` does next, whoever runs it. -/
inductive Progressed (s : State) (start : Start) : StartStep → State → StartResult → Prop where
  | started {k : Nat} {queueName : String} :
      Progressed s start (.group k true) (s.addGroup start.fresh queueName)
        (.going ⟨start.fresh, start.remaining.eraseIdx k⟩)
  | failed {k : Nat} : Progressed s start (.group k false) s .failed
  | installed :
      Progressed s start .install { s with workerPool := some start.fresh } .installed

theorem startConsumers_progressed {start : Start} {next : StartStep} {result : StartResult}
    (hstep : startConsumers s start next = some (t, result)) :
    Progressed s start next t result := by
  cases next with
  | group k ok =>
    obtain ⟨queueName, hget, heq⟩ := Option.map_eq_some_iff.mp hstep
    cases ok with
    | true =>
      obtain ⟨rfl, rfl⟩ := Prod.mk.inj heq
      exact .started
    | false =>
      obtain ⟨rfl, rfl⟩ := Prod.mk.inj heq
      exact .failed
  | install =>
    obtain ⟨-, heq⟩ := Option.ite_none_right_eq_some.mp hstep
    obtain ⟨rfl, rfl⟩ := Prod.mk.inj (Option.some.inj heq)
    exact .installed

theorem inv_starterStep {next : StartStep} (h : Inv s)
    (hstep : starterStep s next = some t) : Inv t := by
  cases hstarter : s.starter with
  | idle => simp [starterStep, hstarter] at hstep
  | starting start =>
    have hfresh : s.starter.fresh = some start.fresh := by simp [hstarter, Starter.fresh]
    simp only [starterStep, hstarter] at hstep
    obtain ⟨⟨u, result⟩, hstart, heq⟩ := Option.map_eq_some_iff.mp hstep
    cases startConsumers_progressed hstart with
    | @started k queueName =>
      obtain rfl := heq
      apply inv_starter (inv_addGroup h (.inr hfresh) queueName)
      intro pool hpool
      exact hfresh.trans hpool
    | failed =>
      obtain rfl := heq
      exact inv_starter h (by simp [Starter.fresh])
    | installed =>
      obtain rfl := heq
      exact inv_starter_install h hfresh

/-- The monitor closes a stop channel of the old pool. -/
theorem inv_stopOld {old k group : Nat} {remaining : List Nat} (h : Inv s)
    (hmonitor : s.monitor = .stopping (some old) remaining)
    (hget : remaining[k]? = some group) :
    Inv { s.close old group with monitor := .stopping (some old) (remaining.eraseIdx k) } := by
  have hpending := h.oldPending old remaining hmonitor
  have hclosed := close_pending hpending hget
  have honce := close_once h.toOnceClosed hpending hget
  have hother := fun other => @State.close_other s old group other
  obtain ⟨-, known, fresh, apart, installed, oldPending, poolPending, exclusive, closing⟩ := h
  constructor
  · exact ⟨honce.alive, honce.closes⟩
  all_goals simp only [State.close_workerPool, State.close_made, State.close_closing,
    State.close_starter, State.close_closer]
  all_goals grind

/-- `Shutdown` closes a stop channel of the pool it has read. -/
theorem inv_stopPool {pool k group : Nat} {remaining : List Nat} (h : Inv s)
    (hcloser : s.closer = .stopping pool remaining) (hget : remaining[k]? = some group) :
    Inv { s.close pool group with closer := .stopping pool (remaining.eraseIdx k) } := by
  have hpending := h.poolPending pool remaining hcloser
  have hclosed := close_pending hpending hget
  have honce := close_once h.toOnceClosed hpending hget
  have hother := fun other => @State.close_other s pool group other
  obtain ⟨-, known, fresh, apart, installed, oldPending, poolPending, exclusive, closing⟩ := h
  constructor
  · exact ⟨honce.alive, honce.closes⟩
  all_goals simp only [State.close_workerPool, State.close_made, State.close_closing,
    State.close_starter, State.close_monitor]
  all_goals grind

/-- The monitor reads the pool to shut down: `Shutdown` has not begun. -/
theorem inv_restart (h : Inv s) (hmonitor : s.monitor = .restarting)
    (hclosing : s.closing = false) :
    Inv { s with monitor := .stopping s.workerPool (s.groups s.workerPool) } := by
  have hidle : s.closer = .idle := by
    by_contra hbusy
    exact absurd (h.closing hbusy) (by simp [hclosing])
  have hpending : ∀ pool, s.workerPool = some pool →
      Pending (s.pools pool) (s.groups (some pool)) := fun pool hpool =>
    groups_pending (h.installed pool hpool (by simp [hmonitor, Monitor.old]) (.inl hidle))
  obtain ⟨once, known, fresh, apart, installed, oldPending, poolPending, exclusive, closing⟩ := h
  constructor
  · exact ⟨once.alive, once.closes⟩
  all_goals simp only
  all_goals grind

theorem inv_startNew {old : Option Nat} (h : Inv s) (hmonitor : s.monitor = .stopping old []) :
    Inv { s.begin.1 with monitor := .starting old s.begin.2 } := by
  obtain ⟨⟨alive, closes⟩, known, fresh, apart, installed, oldPending, poolPending, exclusive,
    closing⟩ := h
  constructor
  · refine ⟨alive, ?_⟩
    simp only [State.begin]
    grind
  all_goals simp only [State.begin]
  all_goals grind

/-- The monitor starts the consumers of a restart. -/
theorem inv_monitor_next {next : StartStep} (h : Inv s)
    (hreader : NoSecondReader s (.monitor next))
    (hstep : monitorStep s (.monitor next) = some t) : Inv t := by
  simp only [monitorStep] at hstep
  split at hstep
  · rename_i old start hmonitor
    have hfresh : s.monitor.fresh = some start.fresh := by simp [hmonitor, Monitor.fresh]
    obtain ⟨⟨u, result⟩, hstart, heq⟩ := Option.map_eq_some_iff.mp hstep
    cases startConsumers_progressed hstart with
    | @started k queueName =>
      obtain rfl := heq
      apply inv_monitor (inv_addGroup h (.inl hfresh) queueName)
      · exact fun pool hpool => hfresh.trans hpool
      · exact .inl (by simp [State.addGroup, hmonitor, Monitor.old])
      · simp
    | failed =>
      -- the old pool may still be installed: here the condition is needed
      obtain rfl := heq
      apply inv_monitor h
      · simp [Monitor.fresh]
      · exact .inr ⟨rfl, not_installed hreader⟩
      · simp
    | installed =>
      obtain rfl := heq
      exact inv_monitor_install h hfresh
  · cases hstep

theorem inv_monitorStep {a : Action} (h : Inv s) (hreader : NoSecondReader s a)
    (hstep : monitorStep s a = some t) : Inv t := by
  cases a with
  | startWorkers | starter | shutdown | readPool | stopPool | finish => simp [monitorStep] at hstep
  | connectionClosed err =>
    simp only [monitorStep] at hstep
    split at hstep
    · rename_i hmonitor
      obtain rfl := Option.some.inj hstep
      apply inv_monitor h <;> cases err <;> simp [hmonitor, Monitor.fresh, Monitor.old]
    · cases hstep
  | stopRequested =>
    simp only [monitorStep] at hstep
    split at hstep <;> [skip; skip; cases hstep]
    all_goals
      rename_i hmonitor
      obtain ⟨-, heq⟩ := Option.ite_none_right_eq_some.mp hstep
      obtain rfl := Option.some.inj heq
      apply inv_monitor h <;> simp [hmonitor, Monitor.fresh, Monitor.old]
  | reconnect ok =>
    simp only [monitorStep] at hstep
    split at hstep
    · rename_i hmonitor
      obtain rfl := Option.some.inj hstep
      apply inv_monitor h <;> cases ok <;> simp [hmonitor, Monitor.fresh, Monitor.old]
    · cases hstep
  | restart =>
    simp only [monitorStep] at hstep
    split at hstep
    · rename_i hmonitor
      obtain rfl := Option.some.inj hstep
      split
      · apply inv_monitor h <;> simp [hmonitor, Monitor.fresh, Monitor.old]
      · rename_i hopen
        exact inv_restart h hmonitor (by simp_all)
    · cases hstep
  | stopOld k =>
    simp only [monitorStep] at hstep
    split at hstep
    · rename_i hmonitor
      obtain ⟨⟨u, left⟩, hstop, rfl⟩ := Option.map_eq_some_iff.mp hstep
      obtain ⟨group, hget, heq⟩ := Option.map_eq_some_iff.mp hstop
      obtain ⟨rfl, rfl⟩ := Prod.mk.inj heq
      exact inv_stopOld h hmonitor hget
    · cases hstep
  | startNew =>
    simp only [monitorStep] at hstep
    split at hstep
    · rename_i hmonitor
      obtain rfl := Option.some.inj hstep
      exact inv_startNew h hmonitor
    · cases hstep
  | monitor next => exact inv_monitor_next h hreader hstep

/-- `Shutdown` reads the pool to shut down. -/
theorem inv_readPool (h : Inv s) (hcloser : s.closer = .signalled) {pool : Nat}
    (hpool : s.workerPool = some pool) (hold : s.monitor.old ≠ some pool) :
    Inv { s with closer := .stopping pool (s.groups (some pool)) } := by
  have hpending := groups_pending (h.installed pool hpool hold (.inr hcloser))
  obtain ⟨once, known, fresh, apart, installed, oldPending, poolPending, exclusive, closing⟩ := h
  constructor
  · exact ⟨once.alive, once.closes⟩
  all_goals simp only
  all_goals grind

/-- `Shutdown` may move on when it has no pool in hand. -/
theorem inv_closer (h : Inv s) {closing : Bool} {closer : Closer} (hclosing : closing = true)
    (hpool : closer.pool = none) (hbusy : closer ≠ .idle)
    (hread : closer = .signalled → s.closer = .idle) : Inv { s with closing, closer } := by
  obtain ⟨once, known, fresh, apart, installed, oldPending, poolPending, exclusive, -⟩ := h
  constructor
  · exact ⟨once.alive, once.closes⟩
  all_goals simp only
  all_goals grind

theorem inv_closerStep {a : Action} (h : Inv s) (hreader : NoSecondReader s a)
    (hstep : closerStep s a = some t) : Inv t := by
  cases a with
  | shutdown =>
    simp only [closerStep] at hstep
    split at hstep
    · rename_i hcloser
      obtain rfl := Option.some.inj hstep
      exact inv_closer h rfl rfl (by simp) fun _ => hcloser
    · cases hstep
  | readPool =>
    simp only [closerStep] at hstep
    split at hstep
    · rename_i hcloser
      have hclosing := h.closing (by simp [hcloser])
      obtain rfl := Option.some.inj hstep
      split
      · rename_i pool hpool
        exact inv_readPool h hcloser hpool fun hold => not_installed hreader pool hold hpool
      · exact inv_closer h hclosing rfl (by simp) (by simp)
    · cases hstep
  | stopPool k =>
    simp only [closerStep] at hstep
    split at hstep
    · rename_i hcloser
      obtain ⟨⟨u, left⟩, hstop, rfl⟩ := Option.map_eq_some_iff.mp hstep
      obtain ⟨group, hget, heq⟩ := Option.map_eq_some_iff.mp hstop
      obtain ⟨rfl, rfl⟩ := Prod.mk.inj heq
      exact inv_stopPool h hcloser hget
    · cases hstep
  | finish =>
    simp only [closerStep] at hstep
    split at hstep <;> [skip; skip; cases hstep]
    all_goals
      rename_i hcloser
      have hclosing := h.closing (by simp [hcloser])
      obtain rfl := Option.some.inj hstep
      exact inv_closer h hclosing rfl (by simp) (by simp)
  | startWorkers | starter | connectionClosed | stopRequested | reconnect | restart | stopOld
  | startNew | monitor => simp [closerStep] at hstep

theorem inv_step {a : Action} (h : Inv s) (hreader : NoSecondReader s a)
    (hstep : step s a = some t) : Inv t := by
  simp only [step, h.alive, Bool.false_eq_true, if_false] at hstep
  split at hstep
  · exact inv_startWorkers h hstep
  · exact inv_starterStep h hstep
  · exact inv_closerStep h hreader hstep
  · exact inv_closerStep h hreader hstep
  · exact inv_closerStep h hreader hstep
  · exact inv_closerStep h hreader hstep
  · exact inv_monitorStep h hreader hstep

end Threads

/-- No stop channel is closed twice, and nothing panics, when no restart fails to start a
consumer after it has shut down the installed pool, and `Shutdown` does not read a pool
that a restart in progress has read. -/
theorem stops_once {as : List Action} {s : State} (hrun : Run step NoSecondReader init as s) :
    OnceClosed s := by
  have hinv := hrun.invariant inv_init fun _ _ _ hreader hstep hinv =>
    inv_step hinv hreader hstep
  exact hinv.toOnceClosed

/-- The consumers of the three main queues start. -/
def started : List Action :=
  [.startWorkers false, .starter (.group 0 true), .starter (.group 0 true),
    .starter (.group 0 true), .starter .install]

/-- The connection is lost and restored, and the gateway shuts down at last. -/
def recovers : List Action :=
  started ++ [.connectionClosed true, .reconnect true, .restart, .stopOld 0, .stopOld 0,
    .stopOld 0, .startNew, .monitor (.group 0 true), .monitor (.group 0 true),
    .monitor (.group 0 true), .monitor .install] ++
    [.shutdown, .readPool, .stopPool 0, .stopPool 0, .stopPool 0, .finish]

theorem recovers_stops_once : OnceClosed (final step init recovers) :=
  have hsome : (exec step init recovers).isSome = true := by decide +kernel
  stops_once (Run.to_final hsome (by decide +kernel))

/-- In every guarded run no stop channel is closed twice, and nothing panics. -/
def StopsOnce (guard : State → Action → Prop) : Prop :=
  ∀ as s, Run step guard init as s → OnceClosed s

/-- The first consumer fails to start on the new connection, and the next restart
shuts down the same pool again. -/
def failsToStart : List Action :=
  started ++ [.connectionClosed true, .reconnect true, .restart, .stopOld 0, .stopOld 0,
    .stopOld 0, .startNew, .monitor (.group 0 false), .reconnect true, .restart, .stopOld 0]

/-- A schedule that ends in a panic refutes the property for every guard it meets. -/
theorem not_stopsOnce {guard : State → Action → Prop} {as : List Action}
    (hcrash : (exec step init as).map (·.crashed) = some true)
    (hguard : Guarded step guard init as) : ¬ StopsOnce guard := by
  intro hall
  obtain ⟨s, hexec, hcrashed⟩ := Option.map_eq_some_iff.mp hcrash
  have honce := hall as s (Run.of_exec hexec hguard)
  exact absurd honce.alive (by simp [hcrashed])

theorem failed_restart_stops_twice : ¬ StopsOnce fun _ _ => True :=
  have hcrash : (exec step init failsToStart).map (·.crashed) = some true := by decide +kernel
  not_stopsOnce hcrash (by decide +kernel)

/-- `Shutdown` reads the pool that a restart is about to shut down. -/
def shutsDownInRestart : List Action :=
  started ++ [.connectionClosed true, .reconnect true, .restart, .shutdown, .readPool,
    .stopPool 0, .stopOld 0]

def Action.startsConsumer : Action → Bool
  | .monitor (.group _ ok) => ok
  | _ => true

/-- It is not enough that every consumer starts. -/
theorem shutdown_in_restart_stops_twice : ¬ StopsOnce fun _ a => a.startsConsumer = true :=
  have hcrash : (exec step init shutsDownInRestart).map (·.crashed) = some true := by
    decide +kernel
  not_stopsOnce hcrash (by decide +kernel)

end WhatsappGateway.RabbitMQ
