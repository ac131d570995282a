import Mathlib.Data.Int.Order.Basic
import WhatsappGateway.Lib.Expiring
import WhatsappGateway.Lib.Fields
import WhatsappGateway.Lib.Run
import WhatsappGateway.Queue.Dedup

/-!
The dedup cache against its specification: the time at which each message of each queue was
marked last. The keys of the three main queues are distinct, so the cache is a table of expiring
entries, one for each message.
-/

namespace WhatsappGateway.Queue

open Lib

/-- The queues whose handlers use the cache. -/
def mainQueues : List String := [queueIncomingEvents, queueWebhookDelivery, queueOutgoingMessages]

theorem mainQueues_no_colon {scope : String} (h : scope ∈ mainQueues) : ':' ∉ scope.toList := by
  simp only [mainQueues, List.mem_cons, List.not_mem_nil, or_false] at h
  obtain rfl | rfl | rfl := h <;> decide

/-- The key of a message determines its queue and its id. -/
theorem dedupKey_main {scope scope' id id' : String} (hscope : scope ∈ mainQueues)
    (hscope' : scope' ∈ mainQueues) (h : dedupKey scope id = dedupKey scope' id') :
    scope = scope' ∧ id = id' := by
  have hlist : scope.toList ++ ':' :: id.toList = scope'.toList ++ ':' :: id'.toList := by
    simpa [dedupKey] using congrArg String.toList h
  obtain ⟨hfirst, hrest⟩ :=
    split_first_inj (mainQueues_no_colon hscope) (mainQueues_no_colon hscope') hlist
  exact ⟨String.toList_inj.mp hfirst, String.toList_inj.mp hrest⟩

/-- A call of `MarkProcessed`. -/
structure Mark where
  scope : String
  id : String
  time : Int
deriving DecidableEq, Repr

/-- When the message was marked last; the marks are newest first. -/
def lastMarked (marks : List Mark) (scope id : String) : Option Int :=
  (marks.find? fun m => m.scope = scope ∧ m.id = id).map Mark.time

/-- What a cache should say: the message has an id, and was marked within the TTL. -/
def Duplicate (marks : List Mark) (ttl now : Int) (scope id : String) : Prop :=
  id ≠ "" ∧ ∃ time, lastMarked marks scope id = some time ∧ now < time + ttl

/-- The cache, the last reading of the clock, and the marks so far. -/
structure CacheRun where
  cache : Option DedupCache
  clock : Int
  marks : List Mark

inductive CacheCall where
  | isDuplicate (scope id : String) (now : Int)
  | markProcessed (scope id : String) (now : Int)
deriving DecidableEq, Repr

namespace CacheRun

/-- A cache that is made at `now`. -/
def init (now ttl : Int) : CacheRun := ⟨some (newDedupCache now ttl), now, []⟩

def step (s : CacheRun) : CacheCall → Option CacheRun
  | .isDuplicate scope id now =>
    some { s with cache := (Queue.isDuplicate now s.cache scope id).2, clock := now }
  | .markProcessed scope id now =>
    some ⟨Queue.markProcessed now s.cache scope id, now, ⟨scope, id, now⟩ :: s.marks⟩

/-- The calls are for the main queues, and the clock does not go back. -/
def InOrder (s : CacheRun) : CacheCall → Prop
  | .isDuplicate scope _ now | .markProcessed scope _ now => scope ∈ mainQueues ∧ s.clock ≤ now

instance (s : CacheRun) : ∀ a, Decidable (s.InOrder a)
  | .isDuplicate .. | .markProcessed .. => inferInstanceAs (Decidable (_ ∧ _))

end CacheRun

/-- A message of one of the main queues. -/
abbrev MainMessage := { scope : String // scope ∈ mainQueues } × { id : String // id ≠ "" }

def MainMessage.key (m : MainMessage) : String := dedupKey m.1 m.2

def MainMessage.lastMarked (marks : List Mark) (m : MainMessage) : Option Int :=
  Queue.lastMarked marks m.1 m.2

theorem MainMessage.key_injective : Function.Injective MainMessage.key := by
  intro m m' h
  obtain ⟨hscope, hid⟩ := dedupKey_main m.1.2 m'.1.2 h
  exact Prod.ext (Subtype.ext hscope) (Subtype.ext hid)

/-- The cache of the run stands for the marks of the run. -/
def Refines (ttl : Int) (s : CacheRun) : Prop :=
  ∃ d, s.cache = some d ∧ d.ttl = ttl ∧
    Remembers ttl s.clock (MainMessage.lastMarked s.marks) fun m => d.entries m.key

section Steps

variable {ttl now : Int} {d : DedupCache} {marks : List Mark} {scope id : String} {s s' : CacheRun}
  {a : CacheCall} {m : MainMessage}

/-- A mark is the last one of its message, and changes no other message. -/
theorem lastMarked_cons :
    MainMessage.lastMarked (⟨m.1, m.2, now⟩ :: marks) =
      Function.update (MainMessage.lastMarked marks) m (some now) := by
  funext other
  by_cases h : other = m
  · subst h
    simp [MainMessage.lastMarked, lastMarked]
  · have hne : ¬ (m.1.val = other.1.val ∧ m.2.val = other.2.val) := by
      rintro ⟨hscope, hid⟩
      exact h (Prod.ext (Subtype.ext hscope.symm) (Subtype.ext hid.symm))
    rw [Function.update_of_ne h]
    simp [MainMessage.lastMarked, lastMarked, hne]

/-- A mark without an id is the mark of no message. -/
theorem lastMarked_empty :
    MainMessage.lastMarked (⟨scope, "", now⟩ :: marks) = MainMessage.lastMarked marks := by
  funext other
  have hid : ¬ "" = other.2.val := fun h => other.2.2 h.symm
  simp [MainMessage.lastMarked, lastMarked, hid]

theorem remembers_sweep {lastMarks : MainMessage → Option Int}
    (h : Remembers ttl now lastMarks fun m => d.entries m.key) :
    Remembers ttl now lastMarks fun m => (sweepLocked now d).entries m.key :=
  h.evict (fun _ _ => of_sweepLocked) fun _ _ hentry hlive => sweepLocked_keeps hentry hlive.le

theorem refines_init : Refines ttl (.init now ttl) :=
  ⟨newDedupCache now ttl, rfl, rfl, .empty⟩

/-- A check only sweeps. -/
theorem Refines.check (h : Refines ttl s) (hclock : s.clock ≤ now) :
    Refines ttl { s with cache := (isDuplicate now s.cache scope id).2, clock := now } := by
  obtain ⟨d, hcache, httl, hremembers⟩ := h
  have hnow := hremembers.at_later hclock
  by_cases hid : id = ""
  · exact ⟨d, by simp [isDuplicate, hid, hcache], httl, hnow⟩
  · exact ⟨sweepLocked now d, by simp [isDuplicate, hid, hcache], by simpa using httl,
      remembers_sweep hnow⟩

theorem Refines.markProcessed (h : Refines ttl s) (hscope : scope ∈ mainQueues)
    (hclock : s.clock ≤ now) :
    Refines ttl ⟨Queue.markProcessed now s.cache scope id, now, ⟨scope, id, now⟩ :: s.marks⟩ := by
  obtain ⟨d, hcache, rfl, hremembers⟩ := h
  have hnow := hremembers.at_later hclock
  by_cases hid : id = ""
  · subst hid
    refine ⟨d, by simp [Queue.markProcessed, hcache], rfl, ?_⟩
    rw [lastMarked_empty]
    exact hnow
  · have hmarked := (remembers_sweep hnow).mark (⟨scope, hscope⟩, ⟨id, hid⟩)
    rw [← lastMarked_cons, ← Function.update_comp_eq_of_injective' (sweepLocked now d).entries
      MainMessage.key_injective] at hmarked
    exact ⟨_, by simp [Queue.markProcessed, hid, hcache]; rfl, by simp, hmarked⟩

theorem Refines.step (horder : s.InOrder a) (hstep : s.step a = some s') (h : Refines ttl s) :
    Refines ttl s' := by
  cases a with
  | isDuplicate scope id now =>
    obtain rfl := Option.some.inj hstep
    exact h.check horder.2
  | markProcessed scope id now =>
    obtain rfl := Option.some.inj hstep
    exact h.markProcessed horder.1 horder.2

/-- The verdict of a cache is that of its specification. -/
theorem Refines.verdict (h : Refines ttl s) (hscope : scope ∈ mainQueues) (hclock : s.clock ≤ now) :
    (isDuplicate now s.cache scope id).1 = true ↔ Duplicate s.marks ttl now scope id := by
  obtain ⟨d, hcache, -, hremembers⟩ := h
  have hnow := hremembers.at_later hclock
  rw [isDuplicate_iff, hcache, Duplicate]
  constructor
  · rintro ⟨hid, d', expiry, hd, hentry, hlive⟩
    obtain rfl := Option.some.inj hd
    exact ⟨hid, (hnow.live_iff (⟨scope, hscope⟩, ⟨id, hid⟩)).mp ⟨expiry, hentry, hlive⟩⟩
  · rintro ⟨hid, hmark⟩
    obtain ⟨expiry, hentry, hlive⟩ := (hnow.live_iff (⟨scope, hscope⟩, ⟨id, hid⟩)).mpr hmark
    exact ⟨hid, d, expiry, rfl, hentry, hlive⟩

/-- Marks of other messages are of no account. -/
theorem duplicate_cons_other {other otherId : String} {time : Int}
    (hother : ¬ (other = scope ∧ otherId = id)) :
    Duplicate (⟨other, otherId, time⟩ :: marks) ttl now scope id ↔
      Duplicate marks ttl now scope id := by
  simp [Duplicate, lastMarked, hother]

end Steps

/-- In every run a message is a duplicate exactly when it was marked last within the TTL. A sweep
keeps what has not expired, and a mark changes the verdict on no other message. -/
theorem dedup_refines {start ttl : Int} {calls : List CacheCall} {s : CacheRun}
    (run : Run CacheRun.step CacheRun.InOrder (.init start ttl) calls s) {scope : String}
    (hscope : scope ∈ mainQueues) {now : Int} (hnow : s.clock ≤ now) (id : String) :
    ((isDuplicate now s.cache scope id).1 = true ↔ Duplicate s.marks ttl now scope id) ∧
    (∀ d key expiry, s.cache = some d → d.entries key = some expiry → now < expiry →
      (sweepLocked now d).entries key = some expiry) ∧
    ∀ other ∈ mainQueues, ∀ otherId time, ¬ (other = scope ∧ otherId = id) → s.clock ≤ time →
      time ≤ now →
      (isDuplicate now (markProcessed time s.cache other otherId) scope id).1 =
        (isDuplicate now s.cache scope id).1 := by
  have hrefines : Refines ttl s := run.invariant refines_init fun _ _ _ => Refines.step
  refine ⟨hrefines.verdict hscope hnow, ?_, ?_⟩
  · intro d key expiry _ hentry hlive
    exact sweepLocked_keeps hentry hlive.le
  · intro other hmain otherId time hother hclock htime
    have hmarked : Refines ttl ⟨markProcessed time s.cache other otherId, time,
        ⟨other, otherId, time⟩ :: s.marks⟩ := hrefines.markProcessed hmain hclock
    rw [Bool.eq_iff_iff, hrefines.verdict hscope hnow]
    exact (hmarked.verdict hscope htime).trans (duplicate_cons_other hother)

/-- The event `m1` is marked, and checked when the cache has been swept once. -/
theorem dedup_refines_marked :
    (isDuplicate 15 (final CacheRun.step (.init 0 10)
        [.markProcessed queueIncomingEvents "m1" 8, .isDuplicate queueWebhookDelivery "m1" 12]).cache
      queueIncomingEvents "m1").1 = true :=
  (dedup_refines (Run.to_final (by decide +kernel) (by decide +kernel)) (by decide) (by decide +kernel)
    "m1").1.mpr ⟨by decide, 8, by decide +kernel, by decide⟩

end WhatsappGateway.Queue
