import Mathlib.Logic.Function.Basic
import WhatsappGateway.Config
import WhatsappGateway.Queue.Constants

/-!
The in-memory TTL cache that suppresses redelivered queue messages. All workers
of a process share one cache; each of its two operations holds the mutex, so
each is one atomic step. One reading of the clock stands for the two which an
operation makes under the mutex. A disabled cache is a nil pointer, `none` here.
-/

namespace WhatsappGateway.Queue

open Lib

structure DedupCache where
  entries : String → Option Int
  ttl : Int
  nextSweep : Int

def newDedupCache (now ttl : Int) : DedupCache where
  entries := fun _ => none
  ttl := ttl
  nextSweep := now + ttl

/-- The cache that `ProvideWorkers` shares between the handlers. -/
def provideDedup (cfg : Config) (now : Int) : Option DedupCache :=
  if cfg.queueDedupEnabled then
    some (newDedupCache now (Duration.seconds cfg.queueDedupTTLSeconds))
  else none

/-- Evict expired entries, at most once per TTL window. -/
def sweepLocked (now : Int) (d : DedupCache) : DedupCache :=
  if now < d.nextSweep then d
  else { d with
    entries := fun key => (d.entries key).filter fun expiry => !decide (now > expiry)
    nextSweep := now + d.ttl }

def dedupKey (scope id : String) : String := scope ++ ":" ++ id

/-- `IsDuplicate`: the verdict and the swept cache. -/
def isDuplicate (now : Int) (cache : Option DedupCache) (scope id : String) :
    Bool × Option DedupCache :=
  match cache with
  | none => (false, none)
  | some d =>
    if id = "" then (false, some d)
    else
      let d := sweepLocked now d
      ((d.entries (dedupKey scope id)).any fun expiry => decide (now < expiry), some d)

def markProcessed (now : Int) (cache : Option DedupCache) (scope id : String) :
    Option DedupCache :=
  match cache with
  | none => none
  | some d =>
    if id = "" then some d
    else
      let d := sweepLocked now d
      some { d with
        entries := Function.update d.entries (dedupKey scope id) (some (now + d.ttl)) }

section Sweep

variable {now : Int} {d : DedupCache} {key : String} {expiry : Int}

@[simp] theorem sweepLocked_ttl : (sweepLocked now d).ttl = d.ttl := by
  unfold sweepLocked
  split <;> rfl

/-- A sweep adds nothing. -/
theorem of_sweepLocked (h : (sweepLocked now d).entries key = some expiry) :
    d.entries key = some expiry := by
  unfold sweepLocked at h
  split at h
  · exact h
  · simp only [Option.filter_eq_some_iff] at h
    exact h.1

/-- A sweep keeps what has not expired. -/
theorem sweepLocked_keeps (h : d.entries key = some expiry) (hnow : now ≤ expiry) :
    (sweepLocked now d).entries key = some expiry := by
  unfold sweepLocked
  split
  · exact h
  · have hkept : ¬ now > expiry := Int.not_lt.mpr hnow
    simp [h, hkept]

end Sweep

/-- The cache holds `key` until an instant, and its TTL is `ttl`. -/
def Holds (cache : Option DedupCache) (ttl : Int) (key : String) (until' : Int) : Prop :=
  ∃ d expiry, cache = some d ∧ d.ttl = ttl ∧ d.entries key = some expiry ∧ until' ≤ expiry

section Operations

variable {now : Int} {cache : Option DedupCache} {scope id : String}

/-- A verdict "duplicate" is a live entry of the key. -/
theorem isDuplicate_iff :
    (isDuplicate now cache scope id).1 = true ↔
      id ≠ "" ∧ ∃ d expiry, cache = some d ∧ d.entries (dedupKey scope id) = some expiry ∧
        now < expiry := by
  cases cache with
  | none => simp [isDuplicate]
  | some d =>
    by_cases hid : id = ""
    · simp [isDuplicate, hid]
    · simp only [isDuplicate, hid, if_false, Option.any_eq_true, decide_eq_true_eq, ne_eq,
        not_false_eq_true, true_and, Option.some.injEq, exists_and_left, exists_eq_left']
      constructor
      · rintro ⟨expiry, hentry, hlive⟩
        exact ⟨expiry, of_sweepLocked hentry, hlive⟩
      · rintro ⟨expiry, hentry, hlive⟩
        exact ⟨expiry, sweepLocked_keeps hentry (Int.le_of_lt hlive), hlive⟩

theorem Holds.isDuplicate {ttl until' : Int} (h : Holds cache ttl (dedupKey scope id) until')
    (hid : id ≠ "") (hnow : now < until') : (isDuplicate now cache scope id).1 = true := by
  obtain ⟨d, expiry, hcache, -, hentry, huntil⟩ := h
  exact isDuplicate_iff.mpr ⟨hid, d, expiry, hcache, hentry, by omega⟩

/-- A check of any message keeps an entry that has not expired. -/
theorem Holds.after_check {ttl until' : Int} {key : String} (h : Holds cache ttl key until')
    (hnow : now ≤ until') : Holds (Queue.isDuplicate now cache scope id).2 ttl key until' := by
  obtain ⟨d, expiry, rfl, httl, hentry, huntil⟩ := h
  by_cases hid : id = ""
  · exact ⟨d, expiry, by simp [Queue.isDuplicate, hid], httl, hentry, huntil⟩
  · exact ⟨sweepLocked now d, expiry, by simp [Queue.isDuplicate, hid], by simp [httl],
      sweepLocked_keeps hentry (by omega), huntil⟩

/-- A mark of any message keeps it, or makes it last a TTL from now. -/
theorem Holds.after_mark {ttl until' : Int} {key : String} (h : Holds cache ttl key until')
    (hnow : now ≤ until') (hlast : until' ≤ now + ttl) :
    Holds (markProcessed now cache scope id) ttl key until' := by
  obtain ⟨d, expiry, rfl, rfl, hentry, huntil⟩ := h
  by_cases hid : id = ""
  · exact ⟨d, expiry, by simp [markProcessed, hid], rfl, hentry, huntil⟩
  · by_cases hkey : key = dedupKey scope id
    · exact ⟨_, now + d.ttl, by simp [markProcessed, hid]; rfl, by simp, by simp [hkey], hlast⟩
    · exact ⟨_, expiry, by simp [markProcessed, hid]; rfl, by simp,
        by simp [hkey, sweepLocked_keeps hentry (show now ≤ expiry by omega)], huntil⟩

/-- A mark holds its own message for a TTL. -/
theorem holds_mark {d : DedupCache} {until' : Int} (hid : id ≠ "")
    (hlast : until' ≤ now + d.ttl) :
    Holds (markProcessed now (some d) scope id) d.ttl (dedupKey scope id) until' := by
  exact ⟨_, now + d.ttl, by simp [markProcessed, hid]; rfl, by simp, by simp, hlast⟩

@[simp] theorem isDuplicate_isSome :
    (isDuplicate now cache scope id).2.isSome = cache.isSome := by
  cases cache with
  | none => rfl
  | some d => by_cases hid : id = "" <;> simp [isDuplicate, hid]

@[simp] theorem markProcessed_isSome :
    (markProcessed now cache scope id).isSome = cache.isSome := by
  cases cache with
  | none => rfl
  | some d => by_cases hid : id = "" <;> simp [markProcessed, hid]

/-- The TTL of the cache, if there is one. -/
def Lasts (cache : Option DedupCache) (ttl : Int) : Prop := ∀ d ∈ cache, d.ttl = ttl

theorem Lasts.after_check {ttl : Int} (h : Lasts cache ttl) :
    Lasts (Queue.isDuplicate now cache scope id).2 ttl := by
  cases cache with
  | none => exact h
  | some d =>
    have httl : d.ttl = ttl := h d rfl
    by_cases hid : id = "" <;> simp [Lasts, Queue.isDuplicate, hid, httl]

theorem Lasts.after_mark {ttl : Int} (h : Lasts cache ttl) :
    Lasts (markProcessed now cache scope id) ttl := by
  cases cache with
  | none => exact h
  | some d =>
    have httl : d.ttl = ttl := h d rfl
    by_cases hid : id = "" <;> simp [Lasts, markProcessed, hid, httl]

theorem lasts_provideDedup (cfg : Config) (now : Int) :
    Lasts (provideDedup cfg now) (Duration.seconds cfg.queueDedupTTLSeconds) := by
  unfold provideDedup
  split
  · intro d hd
    simp only [Option.mem_def, Option.some.injEq] at hd
    subst hd
    rfl
  · intro d hd
    cases hd

/-- The cache has an entry for the key, live or not. -/
def Knows (cache : Option DedupCache) (key : String) : Prop :=
  ∃ d expiry, cache = some d ∧ d.entries key = some expiry

/-- A check adds no entry. -/
theorem Knows.of_check {key : String} (h : Knows (Queue.isDuplicate now cache scope id).2 key) :
    Knows cache key := by
  obtain ⟨d', expiry, hcache, hentry⟩ := h
  cases cache with
  | none => cases hcache
  | some d =>
    by_cases hid : id = ""
    · simp only [Queue.isDuplicate, hid, if_true, Option.some.injEq] at hcache
      subst hcache
      exact ⟨d, expiry, rfl, hentry⟩
    · simp only [Queue.isDuplicate, hid, if_false, Option.some.injEq] at hcache
      subst hcache
      exact ⟨d, expiry, rfl, of_sweepLocked hentry⟩

/-- A mark adds none but its own. -/
theorem Knows.of_mark {key : String} (h : Knows (markProcessed now cache scope id) key) :
    key = dedupKey scope id ∨ Knows cache key := by
  obtain ⟨d', expiry, hcache, hentry⟩ := h
  cases cache with
  | none => cases hcache
  | some d =>
    by_cases hid : id = ""
    · simp only [markProcessed, hid, if_true, Option.some.injEq] at hcache
      subst hcache
      exact .inr ⟨d, expiry, rfl, hentry⟩
    · simp only [markProcessed, hid, if_false, Option.some.injEq] at hcache
      subst hcache
      by_cases hkey : key = dedupKey scope id
      · exact .inl hkey
      · simp only [Function.update_of_ne hkey] at hentry
        exact .inr ⟨d, expiry, rfl, of_sweepLocked hentry⟩

/-- A cache in which nothing is ever live: its TTL is not positive. -/
def Dead (cache : Option DedupCache) (now : Int) : Prop :=
  ∀ d ∈ cache, d.ttl ≤ 0 ∧ ∀ key expiry, d.entries key = some expiry → expiry ≤ now

theorem Dead.not_duplicate (h : Dead cache now) :
    (Queue.isDuplicate now cache scope id).1 = false := by
  by_contra hdup
  simp only [Bool.not_eq_false] at hdup
  obtain ⟨-, d, expiry, hcache, hentry, hlive⟩ := isDuplicate_iff.mp hdup
  have hexpired := (h d hcache).2 _ expiry hentry
  omega

theorem Dead.after_check (h : Dead cache now) :
    Dead (Queue.isDuplicate now cache scope id).2 now := by
  cases cache with
  | none => exact h
  | some d =>
    have hd := h d rfl
    by_cases hid : id = ""
    · simpa [Queue.isDuplicate, hid] using h
    · intro d' hd'
      obtain rfl : sweepLocked now d = d' := by simpa [Queue.isDuplicate, hid] using hd'
      exact ⟨by simpa using hd.1, fun key expiry hentry => hd.2 key expiry (of_sweepLocked hentry)⟩

theorem Dead.after_mark (h : Dead cache now) : Dead (markProcessed now cache scope id) now := by
  cases cache with
  | none => exact h
  | some d =>
    have hd := h d rfl
    by_cases hid : id = ""
    · simpa [markProcessed, hid] using h
    · intro d' hd'
      simp only [markProcessed, hid, if_false, Option.mem_def, Option.some.injEq] at hd'
      subst hd'
      refine ⟨by simpa using hd.1, ?_⟩
      intro key expiry hentry
      by_cases hkey : key = dedupKey scope id
      · simp only [hkey, Function.update_self, Option.some.injEq, sweepLocked_ttl] at hentry
        have httl := hd.1
        omega
      · simp only [Function.update_of_ne hkey] at hentry
        exact hd.2 key expiry (of_sweepLocked hentry)

theorem Dead.later {now' : Int} (h : Dead cache now) (hle : now ≤ now') : Dead cache now' :=
  fun d hd => ⟨(h d hd).1, fun key expiry hentry => Int.le_trans ((h d hd).2 key expiry hentry) hle⟩

/-- Whether the configuration has a cache that remembers anything. -/
def DedupActive (cfg : Config) : Prop :=
  cfg.queueDedupEnabled = true ∧ 0 < Duration.seconds cfg.queueDedupTTLSeconds

theorem dead_provideDedup {cfg : Config} (h : ¬ DedupActive cfg) :
    Dead (provideDedup cfg now) now := by
  unfold provideDedup
  split
  · next henabled =>
    intro d hd
    obtain rfl : newDedupCache now _ = d := by simpa using hd
    have httl : ¬ 0 < Duration.seconds cfg.queueDedupTTLSeconds := fun hpos =>
      h ⟨henabled, hpos⟩
    refine ⟨Int.not_lt.mp httl, ?_⟩
    intro key expiry hentry
    cases hentry
  · intro d hd
    cases hd

/-- A check of a cache that has just been made finds and changes nothing. -/
theorem isDuplicate_new {ttl : Int} (hpos : 0 < ttl) :
    isDuplicate now (some (newDedupCache now ttl)) scope id =
      (false, some (newDedupCache now ttl)) := by
  have hsweep : sweepLocked now (newDedupCache now ttl) = newDedupCache now ttl := by
    unfold sweepLocked
    rw [if_pos]
    exact Int.lt_add_of_pos_right now hpos
  by_cases hid : id = ""
  · simp [isDuplicate, hid]
  · have hempty : (newDedupCache now ttl).entries (dedupKey scope id) = none := rfl
    simp [isDuplicate, hid, hsweep, hempty]

/-- A message that has just been marked is a duplicate. -/
theorem isDuplicate_marked {d : DedupCache} (hid : id ≠ "") (hpos : 0 < d.ttl) :
    (isDuplicate now (markProcessed now (some d) scope id) scope id).1 = true :=
  (holds_mark hid (Int.le_refl _)).isDuplicate hid (Int.lt_add_of_pos_right now hpos)

end Operations

section Keys

theorem append_cancel {a b c : String} (h : a ++ b = a ++ c) : b = c := by
  have hlist := congrArg String.toList h
  simp only [String.toList_append, List.append_cancel_left_eq] at hlist
  exact String.toList_inj.mp hlist

/-- Within a scope, keys are ids. -/
theorem dedupKey_inj {scope id id' : String} (h : dedupKey scope id = dedupKey scope id') :
    id = id' :=
  append_cancel h

/-- The keys of the event queue and of the webhook queue never coincide. -/
theorem dedupKey_scope {id id' : String} :
    dedupKey queueIncomingEvents id ≠ dedupKey queueWebhookDelivery id' := by
  intro h
  have hlist := congrArg String.toList h
  simp [dedupKey, queueIncomingEvents, queueWebhookDelivery] at hlist

/-- Nor do those of the outgoing queue and of the event queue. -/
theorem dedupKey_outgoing {id id' : String} :
    dedupKey queueIncomingEvents id ≠ dedupKey queueOutgoingMessages id' := by
  intro h
  have hlist := congrArg String.toList h
  simp [dedupKey, queueIncomingEvents, queueOutgoingMessages] at hlist

end Keys

end WhatsappGateway.Queue
