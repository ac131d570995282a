import Mathlib.Data.List.Nodup

/-!
Lists of the most recent elements, with one element for each key. An element that comes again is
renewed and moves to the front.
-/

namespace WhatsappGateway.Lib

variable {α κ : Type*} [DecidableEq κ] {key : α → κ} {k : κ} {renew : Option α → α} {x : α}
  {xs : List α}

/-- `renew` gets the element that has the key so far. -/
def touch (key : α → κ) (k : κ) (renew : Option α → α) (xs : List α) : List α :=
  renew (xs.find? fun x => key x = k) :: xs.eraseP fun x => key x = k

theorem mem_of_mem_touch (hx : x ∈ touch key k renew xs) :
    x = renew (xs.find? fun x => key x = k) ∨ x ∈ xs :=
  (List.mem_cons.mp hx).imp_right List.mem_of_mem_eraseP

theorem key_notMem_eraseP (hkeys : (xs.map key).Nodup) :
    k ∉ (xs.eraseP fun x => key x = k).map key := by
  induction xs with
  | nil => exact List.not_mem_nil
  | cons x xs ih =>
    obtain ⟨hx, hkeys⟩ := List.nodup_cons.mp hkeys
    by_cases hkey : key x = k
    · rw [List.eraseP_cons_of_pos (by simpa using hkey), ← hkey]
      exact hx
    · rw [List.eraseP_cons_of_neg (by simpa using hkey), List.map_cons, List.mem_cons, not_or]
      exact ⟨Ne.symm hkey, ih hkeys⟩

/-- There is one element for each key still. -/
theorem touch_nodup (hrenew : ∀ old, key (renew old) = k) (hkeys : (xs.map key).Nodup) :
    ((touch key k renew xs).map key).Nodup := by
  rw [touch, List.map_cons, hrenew]
  refine List.nodup_cons.mpr ⟨key_notMem_eraseP hkeys, ?_⟩
  exact hkeys.sublist (List.eraseP_sublist.map key)

/-- A new key is put in front of the others. -/
theorem touch_of_notMem (hk : k ∉ xs.map key) : touch key k renew xs = renew none :: xs := by
  have hnone : ∀ x ∈ xs, ¬ (decide (key x = k) = true) := by
    intro x hx hkey
    exact hk (List.mem_map.mpr ⟨x, hx, of_decide_eq_true hkey⟩)
  rw [touch, List.find?_eq_none.mpr hnone, List.eraseP_of_forall_not hnone]

end WhatsappGateway.Lib
