import Mathlib.Data.List.Sort
import Mathlib.Data.String.Basic

/-!
Lists sorted by a key. Where the keys differ, there is one sorted list of the elements, whatever
the order they come in.
-/

namespace WhatsappGateway.Lib

variable {α β : Type*} [LinearOrder β] {key : α → β} {xs ys : List α}

def sortOn (key : α → β) (xs : List α) : List α := xs.insertionSort fun a b => key a ≤ key b

theorem sortOn_perm (key : α → β) (xs : List α) : (sortOn key xs).Perm xs :=
  List.perm_insertionSort _ xs

theorem sortOn_pairwise (key : α → β) (xs : List α) :
    (sortOn key xs).Pairwise fun a b => key a ≤ key b := by
  have : Std.Total fun a b => key a ≤ key b := ⟨fun a b => le_total (key a) (key b)⟩
  have : IsTrans α fun a b => key a ≤ key b := ⟨fun a b c => le_trans⟩
  exact List.pairwise_insertionSort _ xs

/-- Different keys are in strict order. -/
theorem sortOn_strict (hkeys : (xs.map key).Nodup) :
    (sortOn key xs).Pairwise fun a b => key a < key b := by
  have hsorted : (sortOn key xs).Pairwise fun a b => key a ≠ key b :=
    List.pairwise_map.mp (((sortOn_perm key xs).map key).nodup_iff.mpr hkeys)
  exact (sortOn_pairwise key xs).imp₂ (fun _ _ hle hne => lt_of_le_of_ne hle hne) hsorted

theorem eq_of_perm_of_strict (hperm : xs.Perm ys) (hxs : xs.Pairwise fun a b => key a < key b)
    (hys : ys.Pairwise fun a b => key a < key b) : xs = ys :=
  hperm.eq_of_pairwise (fun _ _ _ _ hab hba => absurd hab hba.asymm) hxs hys

theorem sortOn_eq_of_perm (hperm : xs.Perm ys) (hkeys : (ys.map key).Nodup) :
    sortOn key xs = sortOn key ys := by
  have hxs : (xs.map key).Nodup := (hperm.map key).nodup_iff.mpr hkeys
  exact eq_of_perm_of_strict ((sortOn_perm key xs).trans (hperm.trans (sortOn_perm key ys).symm))
    (sortOn_strict hxs) (sortOn_strict hkeys)

/-- A change that keeps the keys keeps the order. -/
theorem sortOn_map {γ : Type*} {key' : γ → β} (f : α → γ) (hkey : ∀ a ∈ xs, key' (f a) = key a) :
    sortOn key' (xs.map f) = (sortOn key xs).map f := by
  refine (List.map_insertionSort (fun a b => key a ≤ key b) (fun a b => key' a ≤ key' b) f xs
    ?_).symm
  intro a ha b hb
  rw [hkey a ha, hkey b hb]

theorem sortOn_filter (hkeys : (xs.map key).Nodup) (p : α → Bool) :
    sortOn key (xs.filter p) = (sortOn key xs).filter p := by
  have hsome : ((xs.filter p).map key).Nodup := (List.filter_sublist.map key).nodup hkeys
  exact eq_of_perm_of_strict ((sortOn_perm key _).trans ((sortOn_perm key xs).filter p).symm)
    (sortOn_strict hsome) ((sortOn_strict hkeys).filter p)

/-- A new element goes to its place among the sorted ones. -/
theorem sortOn_concat {x : α} (hkeys : ((xs ++ [x]).map key).Nodup) :
    sortOn key (xs ++ [x]) = (sortOn key xs).orderedInsert (fun a b => key a ≤ key b) x := by
  have hcons : ((x :: xs).map key).Nodup :=
    ((List.perm_append_singleton x xs).map key).nodup_iff.mp hkeys
  exact sortOn_eq_of_perm (List.perm_append_singleton x xs) hcons

/-! ### Two lists side by side -/

theorem forall₂_filter {γ δ : Type*} {R : γ → δ → Prop} {p : γ → Bool} {q : δ → Bool}
    {xs : List γ} {ys : List δ} (h : List.Forall₂ R xs ys)
    (hpq : ∀ a ∈ xs, ∀ b, R a b → p a = q b) :
    List.Forall₂ R (xs.filter p) (ys.filter q) := by
  induction h with
  | nil => exact .nil
  | @cons a b xs ys hab _ ih =>
    have heq := hpq a List.mem_cons_self b hab
    have hrest := ih fun a ha => hpq a (List.mem_cons_of_mem _ ha)
    cases hq : q b with
    | false =>
      rw [hq] at heq
      rw [List.filter_cons_of_neg (by simp [heq]), List.filter_cons_of_neg (by simp [hq])]
      exact hrest
    | true =>
      rw [hq] at heq
      rw [List.filter_cons_of_pos heq, List.filter_cons_of_pos hq]
      exact .cons hab hrest

theorem forall₂_map {γ δ : Type*} {R : γ → δ → Prop} {f : γ → γ} {g : δ → δ} {xs : List γ}
    {ys : List δ} (h : List.Forall₂ R xs ys) (hfg : ∀ a ∈ xs, ∀ b, R a b → R (f a) (g b)) :
    List.Forall₂ R (xs.map f) (ys.map g) := by
  induction h with
  | nil => exact .nil
  | @cons a b xs ys hab _ ih =>
    refine .cons (hfg a List.mem_cons_self b hab) (ih ?_)
    exact fun a' ha' => hfg a' (List.mem_cons_of_mem a ha')

theorem forall₂_exists_right {γ δ : Type*} {R : γ → δ → Prop} {xs : List γ} {ys : List δ}
    (h : List.Forall₂ R xs ys) {a : γ} (ha : a ∈ xs) : ∃ b ∈ ys, R a b := by
  induction h with
  | nil => cases ha
  | @cons a' b xs ys hab _ ih =>
    rcases List.mem_cons.mp ha with rfl | ha
    · exact ⟨b, List.mem_cons_self, hab⟩
    · obtain ⟨b', hb', hR⟩ := ih ha
      exact ⟨b', List.mem_cons_of_mem b hb', hR⟩

theorem forall₂_exists_left {γ δ : Type*} {R : γ → δ → Prop} {xs : List γ} {ys : List δ}
    (h : List.Forall₂ R xs ys) {b : δ} (hb : b ∈ ys) : ∃ a ∈ xs, R a b :=
  forall₂_exists_right h.flip hb

/-- Two elements with the same key go to the same place. -/
theorem forall₂_orderedInsert {γ δ : Type*} {R : γ → δ → Prop} {f : γ → β} {g : δ → β}
    {xs : List γ} {ys : List δ} {a : γ} {b : δ} (h : List.Forall₂ R xs ys) (hab : R a b)
    (hkey : ∀ a b, R a b → f a = g b) :
    List.Forall₂ R (xs.orderedInsert (fun x y => f x ≤ f y) a)
      (ys.orderedInsert (fun x y => g x ≤ g y) b) := by
  induction h with
  | nil => exact .cons hab .nil
  | @cons x y xs ys hxy hrest ih =>
    rw [List.orderedInsert_cons, List.orderedInsert_cons, hkey a b hab, hkey x y hxy]
    by_cases hle : g b ≤ g y
    · rw [if_pos hle, if_pos hle]
      exact .cons hab (.cons hxy hrest)
    · rw [if_neg hle, if_neg hle]
      exact .cons hxy ih

end WhatsappGateway.Lib
