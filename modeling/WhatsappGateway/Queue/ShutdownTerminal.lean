import WhatsappGateway.Queue.Connection

/-!
What `Shutdown` leaves behind. It closes the connection that is installed, so it is
terminal unless the monitor holds another one, or goes on afterwards.
-/

namespace WhatsappGateway.RabbitMQ.Connection

open Lib

/-- Who holds the connections that are alive: the queue, or the monitor that has dialed
one. While it dials, the installed connection is not alive. -/
structure Held (s : State) : Prop where
  known : ∀ conn, s.conn = some conn ∨ s.monitor.pending = some conn → conn < s.dialed
  fresh : ∀ conn, s.dialed ≤ conn → s.links conn ≠ .alive
  held : ∀ conn, s.links conn = .alive → s.conn = some conn ∨ s.monitor.pending = some conn
  parted : s.monitor.parted = true → ∀ conn, s.conn = some conn → s.links conn ≠ .alive

section Close

variable {s : State} {links : Nat → Link} {conn other : Nat}

theorem close_alive_iff :
    close links conn other = .alive ↔ links other = .alive ∧ other ≠ conn := by
  unfold close
  split
  next halive =>
    by_cases hsame : other = conn
    · subst hsame
      simp
    · simp [hsame]
  next hdead =>
    constructor
    · intro halive
      refine ⟨halive, ?_⟩
      rintro rfl
      exact hdead halive
    · exact And.left

theorem closeInstalled_alive_iff :
    s.closeInstalled.links other = .alive ↔ s.links other = .alive ∧ s.conn ≠ some other := by
  unfold State.closeInstalled
  cases hconn : s.conn with
  | none => simp
  | some conn =>
    rw [Option.elim_some, close_alive_iff]
    simp only [ne_eq, Option.some.injEq, eq_comm]

end Close

/-- What most steps do: no connection comes alive or changes hands. -/
structure Quiet (s t : State) : Prop where
  links : ∀ conn, t.links conn = .alive → s.links conn = .alive
  conn : t.conn = s.conn
  dialed : t.dialed = s.dialed
  pending : ∀ conn, t.links conn = .alive → s.monitor.pending = some conn →
    t.monitor.pending = some conn
  known : ∀ conn, t.monitor.pending = some conn → s.monitor.pending = some conn
  parted : t.monitor.parted = true → s.monitor.parted = true

theorem Held.of_quiet {s t : State} (h : Held s) (hquiet : Quiet s t) : Held t where
  known conn hconn := by
    rw [hquiet.conn] at hconn
    rw [hquiet.dialed]
    exact h.known conn (hconn.imp_right (hquiet.known conn))
  fresh conn hfresh halive := h.fresh conn (hquiet.dialed ▸ hfresh) (hquiet.links conn halive)
  held conn halive := by
    rw [hquiet.conn]
    obtain hinstalled | hpending := h.held conn (hquiet.links conn halive)
    · exact .inl hinstalled
    · exact .inr (hquiet.pending conn halive hpending)
  parted hparted conn hconn halive := by
    rw [hquiet.conn] at hconn
    exact h.parted (hquiet.parted hparted) conn hconn (hquiet.links conn halive)

theorem init_held : Held init where
  known conn hconn := by
    obtain hconn | hconn := hconn
    · obtain rfl := Option.some.inj hconn
      exact Nat.one_pos
    · cases hconn
  fresh conn hfresh := by
    have hother : conn ≠ 0 := Nat.ne_of_gt hfresh
    simp [init, Function.update_of_ne hother]
  held conn halive := by
    by_cases hzero : conn = 0
    · exact .inl (by simp [init, hzero])
    · simp [init, Function.update_of_ne hzero] at halive
  parted hparted := by cases hparted

theorem pending_parted {monitor : Monitor} {conn : Nat} (h : monitor.pending = some conn) :
    monitor.parted = true := by
  cases monitor <;> first | rfl | cases h

section Step

variable {s t : State} {a : Action}

/-- A step that leaves the connections alone, and moves the monitor or nobody. -/
theorem Quiet.of_same (hlinks : t.links = s.links) (hconn : t.conn = s.conn)
    (hdialed : t.dialed = s.dialed)
    (hpending : t.monitor.pending = s.monitor.pending)
    (hparted : t.monitor.parted = true → s.monitor.parted = true) : Quiet s t where
  links conn halive := by rwa [hlinks] at halive
  conn := hconn
  dialed := hdialed
  pending conn _ hsome := by rwa [hpending]
  known conn hsome := by rwa [← hpending]
  parted := hparted

/-- A quiet step which neither finishes `Shutdown` nor marks the queue healthy. -/
theorem quiet_step (hheld : Held s) (hterminal : Terminal s) (hquiet : Quiet s t)
    (hcloser : t.closer = s.closer) (hhealthy : t.healthy = true → s.healthy = true)
    (horderly : Orderly s a) : Held t ∧ (Terminal t ↔ Orderly s a) := by
  refine ⟨hheld.of_quiet hquiet, iff_of_true ?_ horderly⟩
  intro hfinished
  rw [hcloser] at hfinished
  obtain ⟨hdown, hdead⟩ := hterminal hfinished
  refine ⟨?_, fun conn halive => hdead conn (hquiet.links conn halive)⟩
  by_contra hup
  rw [hhealthy (by simpa using hup)] at hdown
  cases hdown

/-- A step before `Shutdown` has returned. -/
theorem early_step (hheld : Held t) (hcloser : t.closer ≠ .finished) (horderly : Orderly s a) :
    Held t ∧ (Terminal t ↔ Orderly s a) :=
  ⟨hheld, iff_of_true (fun hfinished => absurd hfinished hcloser) horderly⟩

theorem dropped_quiet (conn : Nat) :
    Quiet s { s with links := Function.update s.links conn .failed } where
  links other halive := by
    by_cases hsame : other = conn
    · subst hsame
      simp at halive
    · simpa [hsame] using halive
  conn := rfl
  dialed := rfl
  pending _ _ hsome := hsome
  known _ hsome := hsome
  parted := id

/-- A dialed connection that cannot be prepared is closed again. -/
theorem discard_quiet {conn : Nat} (hmonitor : s.monitor = .opened conn) :
    Quiet s { s with links := close s.links conn, monitor := .waiting } where
  links other halive := (close_alive_iff.mp halive).1
  conn := rfl
  dialed := rfl
  pending other halive hsome := by
    rw [hmonitor] at hsome
    exact absurd (Option.some.inj hsome).symm (close_alive_iff.mp halive).2
  known other hsome := by cases hsome
  parted hparted := by cases hparted

theorem closeOld_held (hheld : Held s) (hmonitor : s.monitor = .closingOld) :
    Held { s.closeInstalled with monitor := .dialing } where
  known conn hconn := by
    obtain hinstalled | hpending := hconn
    · exact hheld.known conn (.inl hinstalled)
    · cases hpending
  fresh conn hfresh halive := hheld.fresh conn hfresh (closeInstalled_alive_iff.mp halive).1
  held conn halive := by
    obtain ⟨hbefore, hother⟩ := closeInstalled_alive_iff.mp halive
    obtain hinstalled | hpending := hheld.held conn hbefore
    · exact absurd hinstalled hother
    · rw [hmonitor] at hpending
      cases hpending
  parted _ conn hconn halive := (closeInstalled_alive_iff.mp halive).2 hconn

theorem dial_held (hheld : Held s) (hmonitor : s.monitor = .dialing) :
    Held { s with
      links := Function.update s.links s.dialed .alive
      dialed := s.dialed + 1
      monitor := .opened s.dialed } where
  known conn hconn := by
    obtain hinstalled | hpending := hconn
    · exact Nat.lt_succ_of_lt (hheld.known conn (.inl hinstalled))
    · obtain rfl := Option.some.inj hpending
      exact Nat.lt_succ_self _
  fresh conn hfresh := by
    have hother : conn ≠ s.dialed := Nat.ne_of_gt hfresh
    simp only [Function.update_of_ne hother]
    exact hheld.fresh conn (Nat.le_of_succ_le hfresh)
  held conn halive := by
    by_cases hsame : conn = s.dialed
    · exact .inr (congrArg some hsame.symm)
    · simp only [Function.update_of_ne hsame] at halive
      obtain hinstalled | hpending := hheld.held conn halive
      · exact .inl hinstalled
      · rw [hmonitor] at hpending
        cases hpending
  parted _ conn hconn := by
    have hdead := hheld.parted (by rw [hmonitor]; rfl) conn hconn
    have hother : conn ≠ s.dialed := Nat.ne_of_lt (hheld.known conn (.inl hconn))
    simpa only [Function.update_of_ne hother] using hdead

theorem install_held {conn : Nat} (hheld : Held s) (hmonitor : s.monitor = .ready conn) :
    Held { s with conn := some conn, monitor := .topology } where
  known other hconn := by
    obtain hinstalled | hpending := hconn
    · obtain rfl := Option.some.inj hinstalled
      exact hheld.known conn (.inr (by rw [hmonitor]; rfl))
    · cases hpending
  fresh := hheld.fresh
  held other halive := by
    obtain hinstalled | hpending := hheld.held other halive
    · exact absurd halive (hheld.parted (by rw [hmonitor]; rfl) other hinstalled)
    · rw [hmonitor] at hpending
      exact .inl hpending
  parted hparted := by cases hparted

/-- The last section of `Shutdown` closes the installed connection, so only one that waits
to be installed can stay open. -/
theorem finish_terminal_iff (hheld : Held s) :
    Terminal { s.closeInstalled with healthy := false, closer := .finished } ↔
      Orderly s .finish := by
  constructor
  · intro hterminal conn hpending halive
    by_cases hinstalled : s.conn = some conn
    · exact hheld.parted (pending_parted hpending) conn hinstalled halive
    · exact (hterminal rfl).2 conn (closeInstalled_alive_iff.mpr ⟨halive, hinstalled⟩)
  · rintro horderly -
    refine ⟨rfl, ?_⟩
    intro conn halive
    obtain ⟨hbefore, hother⟩ := closeInstalled_alive_iff.mp halive
    obtain hinstalled | hpending := hheld.held conn hbefore
    · exact hother hinstalled
    · exact horderly conn hpending hbefore

/-- What a step of the caller of `Shutdown` does to the ownership of the connections. -/
theorem finish_quiet :
    Quiet s { s.closeInstalled with healthy := false, closer := .finished } where
  links _ halive := (closeInstalled_alive_iff.mp halive).1
  conn := rfl
  dialed := rfl
  pending _ _ hsome := hsome
  known _ hsome := hsome
  parted := id

/-- What a step of the monitor does to the connections, and to the health of the queue. -/
inductive Monitored (s : State) : Action → State → Prop where
  | moved {a : Action} (m : Monitor) (healthy : Bool) : m.pending = s.monitor.pending →
      (m.parted = true → s.monitor.parted = true) → (healthy = true → s.healthy = true) →
      Orderly s a → Monitored s a { s with monitor := m, healthy := healthy }
  | closedOld : s.monitor = .closingOld →
      Monitored s .closeOld { s.closeInstalled with monitor := .dialing }
  | dialed : s.monitor = .dialing → Monitored s (.dial true) { s with
      links := Function.update s.links s.dialed .alive
      dialed := s.dialed + 1
      monitor := .opened s.dialed }
  | discarded (conn : Nat) : s.monitor = .opened conn → Monitored s (.prepare false)
      { s with links := close s.links conn, monitor := .waiting }
  | installed (conn : Nat) : s.monitor = .ready conn →
      Monitored s .install { s with conn := some conn, monitor := .topology }
  | healed (m : Monitor) : m.pending = s.monitor.pending → m.parted = false →
      Monitored s .markHealthy { s with healthy := true, monitor := m }

/-- The monitor holds no connection before the step nor after it. -/
theorem Monitored.idle {m₀ : Monitor} (m : Monitor) (hmonitor : s.monitor = m₀)
    (hbefore : m₀.pending = none) (hafter : m.parted = false) (horderly : Orderly s a) :
    Monitored s a { s with monitor := m } := by
  have hpending : m.pending = none := by
    rw [Option.eq_none_iff_forall_ne_some]
    intro conn hsome
    rw [pending_parted hsome] at hafter
    cases hafter
  refine .moved m s.healthy ?_ ?_ id horderly
  · rw [hmonitor, hbefore, hpending]
  · intro hparted
    rw [hafter] at hparted
    cases hparted

theorem monitorStep_monitored (h : monitorStep s a = some t) : Monitored s a t := by
  cases a with
  | dropped | shutdown | stopWorkers | finish => cases h
  | watch =>
    simp only [monitorStep] at h
    split at h
    next hmonitor _ =>
      obtain rfl := Option.some.inj h
      exact .idle .ended hmonitor rfl rfl trivial
    next conn hmonitor hconn =>
      obtain rfl := Option.some.inj h
      split
      · exact .idle (.watching conn) hmonitor rfl rfl trivial
      · exact .idle .ended hmonitor rfl rfl trivial
    · cases h
  | stopRequested =>
    simp only [monitorStep] at h
    split at h
    next conn hmonitor =>
      split at h
      · obtain rfl := Option.some.inj h
        exact .idle .ended hmonitor rfl rfl trivial
      · cases h
    next hmonitor =>
      split at h
      · obtain rfl := Option.some.inj h
        exact .idle .ended hmonitor rfl rfl trivial
      · cases h
    · cases h
  | notified =>
    simp only [monitorStep] at h
    split at h
    next conn hmonitor =>
      split at h
      · cases h
      · obtain rfl := Option.some.inj h
        exact .idle .lost hmonitor rfl rfl trivial
      · obtain rfl := Option.some.inj h
        exact .idle .ended hmonitor rfl rfl trivial
    · cases h
  | markUnhealthy =>
    simp only [monitorStep] at h
    split at h
    next hmonitor =>
      obtain rfl := Option.some.inj h
      exact .moved .waiting false (by rw [hmonitor]; rfl) nofun nofun trivial
    · cases h
  | timer =>
    simp only [monitorStep] at h
    split at h
    next hmonitor =>
      obtain rfl := Option.some.inj h
      exact .idle .closingOld hmonitor rfl rfl trivial
    · cases h
  | closeOld =>
    simp only [monitorStep] at h
    split at h
    next hmonitor =>
      obtain rfl := Option.some.inj h
      exact .closedOld hmonitor
    · cases h
  | dial ok =>
    simp only [monitorStep] at h
    split at h
    next hmonitor =>
      cases ok with
      | true =>
        obtain rfl := Option.some.inj h
        exact .dialed hmonitor
      | false =>
        obtain rfl := Option.some.inj h
        exact .idle .waiting hmonitor rfl rfl nofun
    · cases h
  | prepare ok =>
    simp only [monitorStep] at h
    split at h
    next conn hmonitor =>
      cases ok with
      | true =>
        obtain rfl := Option.some.inj h
        exact .moved (.ready conn) s.healthy (by rw [hmonitor]; rfl)
          (fun _ => by rw [hmonitor]; rfl) id trivial
      | false =>
        obtain rfl := Option.some.inj h
        exact .discarded conn hmonitor
    · cases h
  | install =>
    simp only [monitorStep] at h
    split at h
    next conn hmonitor =>
      obtain rfl := Option.some.inj h
      exact .installed conn hmonitor
    · cases h
  | setupTopology ok =>
    simp only [monitorStep] at h
    split at h
    next hmonitor =>
      obtain rfl := Option.some.inj h
      cases ok with
      | true => exact .idle _ hmonitor rfl rfl trivial
      | false => exact .idle _ hmonitor rfl rfl trivial
    · cases h
  | markHealthy =>
    simp only [monitorStep] at h
    split at h
    next hmonitor =>
      obtain rfl := Option.some.inj h
      exact .healed _ (by rw [hmonitor]; rfl) rfl
    · cases h
  | restartConsumers =>
    simp only [monitorStep] at h
    split at h
    next hmonitor =>
      obtain rfl := Option.some.inj h
      split
      · exact .idle .entering hmonitor rfl rfl trivial
      · exact .idle .starting hmonitor rfl rfl trivial
    · cases h
  | startConsumers ok =>
    simp only [monitorStep] at h
    split at h
    next hmonitor =>
      obtain rfl := Option.some.inj h
      cases ok with
      | true => exact .idle _ hmonitor rfl rfl trivial
      | false => exact .idle _ hmonitor rfl rfl trivial
    · cases h

theorem Monitored.spec (h : Monitored s a t) (hheld : Held s) (hterminal : Terminal s) :
    Held t ∧ (Terminal t ↔ Orderly s a) := by
  cases h with
  | moved m healthy hpending hparted hhealthy horderly =>
    exact quiet_step hheld hterminal (.of_same rfl rfl rfl hpending hparted) rfl hhealthy horderly
  | closedOld hmonitor =>
    refine ⟨closeOld_held hheld hmonitor, iff_of_true ?_ trivial⟩
    intro hfinished
    obtain ⟨hdown, hdead⟩ := hterminal hfinished
    exact ⟨hdown, fun conn halive => hdead conn (closeInstalled_alive_iff.mp halive).1⟩
  | dialed hmonitor =>
    refine ⟨dial_held hheld hmonitor, ?_⟩
    constructor
    · rintro hafter - hfinished
      exact (hafter hfinished).2 s.dialed (Function.update_self _ _ _)
    · intro horderly hfinished
      exact absurd hfinished (horderly rfl)
  | discarded conn hmonitor =>
    exact quiet_step hheld hterminal (discard_quiet hmonitor) rfl id trivial
  | installed conn hmonitor =>
    exact ⟨install_held hheld hmonitor, iff_of_true hterminal trivial⟩
  | healed m hpending hparted =>
    refine ⟨hheld.of_quiet (.of_same rfl rfl rfl hpending ?_), ?_⟩
    · intro hmoved
      rw [hparted] at hmoved
      cases hmoved
    · constructor
      · intro hafter hfinished
        exact absurd (hafter hfinished).1 (by simp)
      · intro horderly hfinished
        exact absurd hfinished horderly

theorem closerStep_spec (hheld : Held s) (h : closerStep s a = some t) :
    Held t ∧ (Terminal t ↔ Orderly s a) := by
  cases a with
  | shutdown =>
    simp only [closerStep] at h
    split at h
    · obtain rfl := Option.some.inj h
      exact early_step (hheld.of_quiet (.of_same rfl rfl rfl rfl id)) nofun trivial
    · cases h
  | stopWorkers =>
    simp only [closerStep] at h
    split at h
    · obtain rfl := Option.some.inj h
      exact early_step (hheld.of_quiet (.of_same rfl rfl rfl rfl id)) nofun trivial
    · cases h
  | finish =>
    simp only [closerStep] at h
    split at h
    · obtain rfl := Option.some.inj h
      exact ⟨hheld.of_quiet finish_quiet, finish_terminal_iff hheld⟩
    · cases h
  | _ => cases h

theorem step_spec (hheld : Held s) (hterminal : Terminal s) (h : step s a = some t) :
    Held t ∧ (Terminal t ↔ Orderly s a) := by
  cases a with
  | dropped conn =>
    simp only [step] at h
    split at h
    · obtain rfl := Option.some.inj h
      exact quiet_step hheld hterminal (dropped_quiet conn) rfl id trivial
    · cases h
  | shutdown | stopWorkers | finish => exact closerStep_spec hheld h
  | _ => exact Monitored.spec (monitorStep_monitored h) hheld hterminal

end Step

/-- `Shutdown` is terminal throughout a run exactly when each step of the run is orderly. -/
theorem shutdown_terminal_iff {as : List Action} {t : State}
    (run : Run step (fun _ _ => True) init as t) :
    Always step Terminal init as ↔ Guarded step Orderly init as :=
  run.always_iff init_held nofun
    fun _ _ _ _ hstep hheld hterminal => step_spec hheld hterminal hstep

/-- The connection fails and is restored, and later the queue is shut down. -/
def quietShutdown : List Action :=
  [.watch, .dropped 0, .notified, .markUnhealthy, .timer, .closeOld, .dial true, .prepare true,
    .install, .setupTopology true, .markHealthy, .restartConsumers, .startConsumers true, .watch,
    .shutdown, .stopRequested, .stopWorkers, .finish]

theorem quietShutdown_terminal : Always step Terminal init quietShutdown :=
  (shutdown_terminal_iff (Run.to_final_free (by decide +kernel))).mpr
    (by decide +kernel)

/-- `Shutdown` is terminal in every run. -/
def ShutdownTerminal : Prop :=
  ∀ as t, Run step (fun _ _ => True) init as t → Terminal t

/-- The queue is shut down while the monitor dials. -/
def shutdownWhileDialing : List Action :=
  [.watch, .dropped 0, .notified, .markUnhealthy, .timer, .closeOld, .shutdown, .stopWorkers,
    .finish, .dial true, .prepare true, .install, .setupTopology true, .markHealthy]

theorem shutdownWhileDialing_revives : ¬ ShutdownTerminal := by
  intro hall
  have hterminal := hall shutdownWhileDialing _ (Run.to_final_free (by decide +kernel))
  have hfinished : (final step init shutdownWhileDialing).closer = .finished := by
    decide +kernel
  have hhealthy : (final step init shutdownWhileDialing).healthy = true := by decide +kernel
  rw [(hterminal hfinished).1] at hhealthy
  cases hhealthy

end WhatsappGateway.RabbitMQ.Connection
