import Mathlib.Algebra.Order.Monoid.Unbundled.Basic
import Mathlib.Data.List.Basic
import Mathlib.Logic.Function.Basic
import Mathlib.Order.Lattice

/-!
Tables whose entries expire. The specification of such a table is the time of the last mark of
each key; a mark counts until a fixed time after it. The table holds the expiry of each mark,
and may drop an entry at any moment from its expiry on.
-/

namespace WhatsappGateway.Lib

variable {κ τ : Type*} [Add τ] [LinearOrder τ]

/-- At `now` the table `entries` stands for the last marks: it holds no other entry, and each
entry that has not expired. -/
structure Remembers (ttl now : τ) (marks entries : κ → Option τ) : Prop where
  sound : ∀ key expiry, entries key = some expiry → ∃ time, marks key = some time ∧
    expiry = time + ttl
  live : ∀ key time, marks key = some time → now < time + ttl → entries key = some (time + ttl)

namespace Remembers

variable {ttl now later : τ} {marks entries entries' : κ → Option τ}

/-- The empty table stands for no marks. -/
theorem empty : Remembers ttl now (fun _ : κ => none) fun _ => none where
  sound _ _ h := by cases h
  live _ _ h := by cases h

theorem at_later (h : Remembers ttl now marks entries) (hlater : now ≤ later) :
    Remembers ttl later marks entries where
  sound := h.sound
  live key time hmark hlive := h.live key time hmark (hlater.trans_lt hlive)

/-- An eviction adds nothing and keeps what has not expired. -/
theorem evict (h : Remembers ttl now marks entries)
    (hadds : ∀ key expiry, entries' key = some expiry → entries key = some expiry)
    (hkeeps : ∀ key expiry, entries key = some expiry → now < expiry →
      entries' key = some expiry) : Remembers ttl now marks entries' where
  sound key expiry hentry := h.sound key expiry (hadds key expiry hentry)
  live key time hmark hlive := hkeeps key _ (h.live key time hmark hlive) hlive

theorem mark [DecidableEq κ] (h : Remembers ttl now marks entries) (key : κ) :
    Remembers ttl now (Function.update marks key (some now))
      (Function.update entries key (some (now + ttl))) where
  sound other expiry hentry := by
    by_cases hkey : other = key
    · subst hkey
      rw [Function.update_self] at hentry ⊢
      exact ⟨now, rfl, (Option.some.inj hentry).symm⟩
    · rw [Function.update_of_ne hkey] at hentry ⊢
      exact h.sound other expiry hentry
  live other time hmark hlive := by
    by_cases hkey : other = key
    · subst hkey
      rw [Function.update_self] at hmark ⊢
      rw [Option.some.inj hmark]
    · rw [Function.update_of_ne hkey] at hmark ⊢
      exact h.live other time hmark hlive

/-- An entry is live exactly when the last mark of its key counts. -/
theorem live_iff (h : Remembers ttl now marks entries) (key : κ) :
    (∃ expiry, entries key = some expiry ∧ now < expiry) ↔
      ∃ time, marks key = some time ∧ now < time + ttl := by
  constructor
  · rintro ⟨expiry, hentry, hlive⟩
    obtain ⟨time, hmark, rfl⟩ := h.sound key expiry hentry
    exact ⟨time, hmark, hlive⟩
  · rintro ⟨time, hmark, hlive⟩
    exact ⟨time + ttl, h.live key time hmark hlive, hlive⟩

end Remembers

/-! ### Marks that are logged -/

section Log

variable [DecidableEq κ] {ttl now time : τ} {key : κ} {log : List (κ × τ)}

/-- The last mark of each key in a log, the newest first. -/
def lastOf (log : List (κ × τ)) (key : κ) : Option τ :=
  (log.find? fun entry => entry.1 = key).map Prod.snd

omit [Add τ] [LinearOrder τ] in
theorem lastOf_cons (key : κ) (time : τ) (log : List (κ × τ)) :
    lastOf ((key, time) :: log) = Function.update (lastOf log) key (some time) := by
  funext other
  by_cases hkey : other = key
  · subst hkey
    rw [Function.update_self, lastOf]
    simp only [List.find?_cons, decide_true, Option.map_some]
  · have hne : key ≠ other := fun heq => hkey heq.symm
    rw [Function.update_of_ne hkey, lastOf]
    simp only [List.find?_cons, hne, decide_false, lastOf]

/-- Some mark of a key counts exactly when its last one does. -/
theorem exists_live_iff [AddRightMono τ]
    (hsorted : log.Pairwise fun newer older => older.2 ≤ newer.2) :
    (∃ time, lastOf log key = some time ∧ now < time + ttl) ↔
      ∃ entry ∈ log, entry.1 = key ∧ now < entry.2 + ttl := by
  induction log with
  | nil => simp [lastOf]
  | cons entry log ih =>
    obtain ⟨marked, last⟩ := entry
    obtain ⟨hnewest, hsorted⟩ := List.pairwise_cons.mp hsorted
    rw [lastOf_cons, List.exists_mem_cons_iff]
    by_cases hkey : marked = key
    · subst hkey
      rw [Function.update_self]
      constructor
      · rintro ⟨time, htime, hlive⟩
        exact .inl ⟨rfl, Option.some.inj htime ▸ hlive⟩
      · rintro (⟨-, hlive⟩ | ⟨older, holder, -, hlive⟩)
        · exact ⟨last, rfl, hlive⟩
        · exact ⟨last, rfl, hlive.trans_le (add_le_add_left (hnewest older holder) ttl)⟩
    · rw [Function.update_of_ne (Ne.symm hkey), ih hsorted]
      exact (or_iff_right fun h => hkey h.1).symm

end Log

end WhatsappGateway.Lib
