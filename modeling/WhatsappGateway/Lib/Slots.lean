import Mathlib.Data.List.Perm.Basic

/-!
A bounded number of slots for tasks that run at the same time. A task that comes while all slots
are taken is dropped at once; a task gives its slot back when it ends, with a result. Whatever
comes is running, has ended, or was dropped.
-/

namespace WhatsappGateway.Lib

variable {τ ρ : Type*}

/-- `held` are the tokens taken; the lists are what became of the tasks. -/
structure Slots (τ ρ : Type*) where
  held : Nat
  running : List τ
  ended : List (τ × ρ)
  dropped : List τ

namespace Slots

def empty : Slots τ ρ := ⟨0, [], [], []⟩

/-- A token is taken, if there is one. -/
def offer (capacity : Nat) (s : Slots τ ρ) (task : τ) : Slots τ ρ :=
  if s.held < capacity then { s with held := s.held + 1, running := s.running ++ [task] }
  else { s with dropped := s.dropped ++ [task] }

/-- The `k`th of the running tasks ends, and gives its token back. -/
def finish (s : Slots τ ρ) (k : Nat) (result : τ → ρ) : Option (Slots τ ρ) :=
  s.running[k]?.map fun task =>
    { s with
      held := s.held - 1
      running := s.running.eraseIdx k
      ended := s.ended ++ [(task, result task)] }

/-- The tasks that have come, in some order. -/
def tasks (s : Slots τ ρ) : List τ := s.running ++ s.ended.map Prod.fst ++ s.dropped

/-- A token for each running task, and no more of them than there are slots. -/
structure Balanced (capacity : Nat) (s : Slots τ ρ) : Prop where
  held_eq : s.held = s.running.length
  held_le : s.held ≤ capacity

variable {capacity k : Nat} {s t : Slots τ ρ} {task : τ} {result : τ → ρ}

theorem Balanced.empty (capacity : Nat) : Balanced capacity (empty : Slots τ ρ) :=
  ⟨rfl, Nat.zero_le capacity⟩

theorem Balanced.offer (h : Balanced capacity s) (task : τ) :
    Balanced capacity (s.offer capacity task) := by
  have hheld := h.held_eq
  unfold Slots.offer
  split
  next hfree => exact ⟨by simp [hheld], hfree⟩
  next => exact ⟨hheld, h.held_le⟩

theorem Balanced.finish (h : Balanced capacity s) (hend : s.finish k result = some t) :
    Balanced capacity t := by
  have hheld := h.held_eq
  have hle := h.held_le
  obtain ⟨task, hget, rfl⟩ := Option.map_eq_some_iff.mp hend
  have hk := (List.getElem?_eq_some_iff.mp hget).1
  constructor
  · dsimp only
    rw [List.length_eraseIdx_of_lt hk, hheld]
  · dsimp only
    omega

/-- A task is dropped exactly when as many as there are slots are running. -/
theorem Balanced.dropped_iff (h : Balanced capacity s) (task : τ) :
    (s.offer capacity task).dropped ≠ s.dropped ↔ s.running.length = capacity := by
  have hheld := h.held_eq
  have hle := h.held_le
  unfold Slots.offer
  split
  next hfree => exact iff_of_false (fun hne => hne rfl) (by omega)
  next hfull => exact iff_of_true (by simp) (by omega)

theorem tasks_offer (s : Slots τ ρ) (task : τ) :
    (s.offer capacity task).tasks.Perm (task :: s.tasks) := by
  unfold offer tasks
  split
  · dsimp only
    rw [List.append_assoc, List.append_assoc, List.append_assoc]
    exact List.perm_middle
  · dsimp only
    rw [← List.append_assoc]
    exact List.perm_append_singleton task _

theorem tasks_finish (hend : s.finish k result = some t) : t.tasks.Perm s.tasks := by
  obtain ⟨task, hget, rfl⟩ := Option.map_eq_some_iff.mp hend
  obtain ⟨hk, htask⟩ := List.getElem?_eq_some_iff.mp hget
  have hperm : (task :: s.running.eraseIdx k).Perm s.running := by
    rw [← htask]
    exact List.getElem_cons_eraseIdx_perm hk
  unfold tasks
  dsimp only
  refine List.Perm.append_right _ ?_
  rw [List.map_append, ← List.append_assoc]
  refine (List.perm_append_singleton task _).trans ?_
  rw [← List.cons_append]
  exact hperm.append_right _

/-- What a task ended with. -/
theorem mem_ended_finish (hend : s.finish k result = some t) {entry : τ × ρ}
    (hentry : entry ∈ t.ended) : entry ∈ s.ended ∨ entry.2 = result entry.1 := by
  obtain ⟨task, -, rfl⟩ := Option.map_eq_some_iff.mp hend
  rcases List.mem_append.mp hentry with hearlier | hnew
  · exact .inl hearlier
  · obtain rfl := List.mem_singleton.mp hnew
    exact .inr rfl

theorem ended_offer (s : Slots τ ρ) (task : τ) : (s.offer capacity task).ended = s.ended := by
  unfold offer
  split <;> rfl

/-! ### Tasks that go through phases -/

section Phases

variable {τ' β : Type*} {f : τ → τ'} {task' : τ}

def map (f : τ → τ') (s : Slots τ ρ) : Slots τ' ρ :=
  ⟨s.held, s.running.map f, s.ended.map fun entry => (f entry.1, entry.2), s.dropped.map f⟩

def setRunning (s : Slots τ ρ) (k : Nat) (task : τ) : Slots τ ρ :=
  { s with running := s.running.set k task }

def setDropped (s : Slots τ ρ) (k : Nat) (task : τ) : Slots τ ρ :=
  { s with dropped := s.dropped.set k task }

theorem map_offer (f : τ → τ') (s : Slots τ ρ) (task : τ) :
    (s.offer capacity task).map f = (s.map f).offer capacity (f task) := by
  unfold offer map
  split <;> simp

theorem map_finish {r : ρ} (hend : s.finish k (fun _ => r) = some t) :
    (s.map f).finish k (fun _ => r) = some (t.map f) := by
  obtain ⟨task, hget, rfl⟩ := Option.map_eq_some_iff.mp hend
  simp [finish, map, hget, List.eraseIdx_map]

theorem set_map {xs : List τ} (hget : xs[k]? = some task) (hsame : f task' = f task) :
    (xs.set k task').map f = xs.map f := by
  obtain ⟨hk, rfl⟩ := List.getElem?_eq_some_iff.mp hget
  rw [List.map_set, hsame, ← List.getElem_map f (h := by simpa using hk), List.set_getElem_self]

theorem map_setRunning (hget : s.running[k]? = some task) (hsame : f task' = f task) :
    (s.setRunning k task').map f = s.map f := by
  simp [setRunning, map, set_map hget hsame]

theorem map_setDropped (hget : s.dropped[k]? = some task) (hsame : f task' = f task) :
    (s.setDropped k task').map f = s.map f := by
  simp [setDropped, map, set_map hget hsame]

theorem flatMap_set_same {xs : List τ} {g : τ → List β} (hget : xs[k]? = some task)
    (hsame : g task' = g task) : (xs.set k task').flatMap g = xs.flatMap g := by
  rw [List.flatMap_def, List.flatMap_def, set_map hget hsame]

/-- What a task adds when it goes on to its next phase. -/
theorem flatMap_set_cons {xs : List τ} {g : τ → List β} {b : β} (hget : xs[k]? = some task)
    (hadded : (g task').Perm (b :: g task)) :
    ((xs.set k task').flatMap g).Perm (b :: xs.flatMap g) := by
  induction xs generalizing k with
  | nil => cases hget
  | cons x xs ih =>
    cases k with
    | zero =>
      obtain rfl := Option.some.inj hget
      rw [List.set_cons_zero, List.flatMap_cons, List.flatMap_cons, ← List.cons_append]
      exact hadded.append_right _
    | succ k =>
      rw [List.set_cons_succ, List.flatMap_cons, List.flatMap_cons]
      exact ((ih hget).append_left _).trans List.perm_middle

/-- What goes with a task that ends. -/
theorem flatMap_eraseIdx {xs : List τ} (g : τ → List β) (hget : xs[k]? = some task) :
    (xs.flatMap g).Perm (g task ++ (xs.eraseIdx k).flatMap g) := by
  obtain ⟨hk, rfl⟩ := List.getElem?_eq_some_iff.mp hget
  exact (List.getElem_cons_eraseIdx_perm hk).symm.flatMap_right g

end Phases

end Slots

end WhatsappGateway.Lib
