import Mathlib.Data.List.AList
import WhatsappGateway.Lib.Int64

/-!
Counters of 64 bits, by a key. A counter comes into being with its first increment, and wraps
around.
-/

namespace WhatsappGateway.Lib

open Duration

abbrev Tally (κ : Type*) := AList fun _ : κ => Int

/-- What a counter shows that has been incremented `n` times; none is there before the first. -/
def shown (n : Nat) : Option Int := if n = 0 then none else some (wrap64 n)

namespace Tally

variable {κ : Type*} [DecidableEq κ] {t : Tally κ} {key other : κ} {keys keys' : List κ}

def inc (t : Tally κ) (key : κ) : Tally κ := t.insert key (wrap64 ((t.lookup key).getD 0 + 1))

/-- An order in which the counters are gone through. -/
structure Order (t : Tally κ) where
  keys : List κ
  perm : keys.Perm t.keys

/-- The counters after an increment of each of `keys`. -/
structure Counts (t : Tally κ) (keys : List κ) : Prop where
  lookup : ∀ key, t.lookup key = shown (keys.count key)

theorem wrap64_succ (n : Int) : wrap64 (wrap64 n + 1) = wrap64 (n + 1) := Int.bmod_add_bmod

theorem shown_succ (n : Nat) : some (wrap64 ((shown n).getD 0 + 1)) = shown (n + 1) := by
  cases n with
  | zero => rfl
  | succ n =>
    rw [shown, shown, if_neg n.succ_ne_zero, if_neg (n + 1).succ_ne_zero, Option.getD_some,
      wrap64_succ]
    rfl

theorem Counts.empty : Counts (∅ : Tally κ) [] where
  lookup _ := rfl

theorem Counts.inc (h : Counts t keys) (hkeys : keys'.Perm (key :: keys)) :
    Counts (t.inc key) keys' where
  lookup other := by
    rw [hkeys.count_eq, Tally.inc]
    by_cases hsame : other = key
    · rw [hsame, AList.lookup_insert, h.lookup, List.count_cons_self, shown_succ]
    · rw [AList.lookup_insert_ne hsame, h.lookup, List.count_cons_of_ne (Ne.symm hsame)]

theorem Counts.perm (h : Counts t keys) (hkeys : keys'.Perm keys) : Counts t keys' where
  lookup key := by rw [h.lookup, hkeys.count_eq]

/-- There is a counter for each of the keys. -/
theorem Counts.mem_keys (h : Counts t keys) : key ∈ t.keys ↔ key ∈ keys := by
  rw [← AList.mem_keys, ← AList.lookup_isSome, h.lookup, shown, ← List.count_pos_iff,
    Nat.pos_iff_ne_zero]
  split <;> simp_all

theorem wrap64_add (m n : Int) : wrap64 (wrap64 m + n) = wrap64 (m + n) := Int.bmod_add_bmod

/-- Increments in a row, of counters some of which were there before. -/
theorem lookup_foldl_inc :
    (keys.foldl inc t).lookup key = if key ∈ keys then
      some (wrap64 ((t.lookup key).getD 0 + keys.count key)) else t.lookup key := by
  induction keys generalizing t with
  | nil => rfl
  | cons other keys ih =>
    rw [List.foldl_cons, ih, inc]
    by_cases hsame : key = other
    · subst hsame
      rw [AList.lookup_insert, Option.getD_some, List.count_cons_self,
        if_pos (List.mem_cons_self (a := key))]
      by_cases hmem : key ∈ keys
      · rw [if_pos hmem, wrap64_add, Int.add_assoc, Int.add_comm 1]
        rfl
      · rw [if_neg hmem, List.count_eq_zero_of_not_mem hmem]
        simp
    · rw [AList.lookup_insert_ne hsame, List.count_cons_of_ne (Ne.symm hsame)]
      simp only [List.mem_cons, hsame, false_or]

end Tally

end WhatsappGateway.Lib
