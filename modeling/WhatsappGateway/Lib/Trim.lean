import Mathlib.Data.List.DropRight

/-!
Trimming a list at both ends: what is cut off satisfies the predicate, and elements that do not
satisfy it are kept, so padding is removed and filters for other elements see no difference.
-/

namespace WhatsappGateway.Lib

variable {α : Type*} {p q : α → Bool} {xs left right : List α}

/-- The list without the elements of `p` at its ends. -/
def trim (p : α → Bool) (xs : List α) : List α := (xs.dropWhile p).rdropWhile p

theorem rdropWhile_append (h : ∀ x ∈ right, p x = true) :
    (xs ++ right).rdropWhile p = xs.rdropWhile p := by
  have hreverse : ∀ x ∈ right.reverse, p x = true := fun x hx => h x (List.mem_reverse.mp hx)
  rw [List.rdropWhile, List.reverse_append, List.dropWhile_append_of_pos hreverse,
    ← List.rdropWhile]

theorem trim_append_left (h : ∀ x ∈ left, p x = true) : trim p (left ++ xs) = trim p xs := by
  rw [trim, List.dropWhile_append_of_pos h, ← trim]

theorem trim_append_right (h : ∀ x ∈ right, p x = true) : trim p (xs ++ right) = trim p xs := by
  rw [trim, trim, List.dropWhile_append]
  split
  next hnil =>
    have hxs : xs.dropWhile p = [] := List.isEmpty_iff.mp hnil
    have hright : right.dropWhile p = [] := List.dropWhile_eq_nil_iff.mpr h
    rw [hxs, hright]
  next hsome => exact rdropWhile_append h

theorem trim_eq_self (hhead : ∀ x ∈ xs.head?, p x = false)
    (hlast : ∀ x ∈ xs.getLast?, p x = false) : trim p xs = xs := by
  cases xs with
  | nil => rfl
  | cons x xs =>
    have hx : ¬ p x = true := by
      rw [hhead x rfl]
      exact Bool.false_ne_true
    rw [trim, List.dropWhile_cons_of_neg hx, List.rdropWhile_eq_self_iff]
    intro hne
    rw [hlast _ (List.getLast?_eq_some_getLast hne)]
    exact Bool.false_ne_true

/-- What is trimmed off, on each side. -/
theorem exists_append_trim (p : α → Bool) (xs : List α) :
    ∃ left right, xs = left ++ trim p xs ++ right ∧ (∀ x ∈ left, p x = true) ∧
      ∀ x ∈ right, p x = true := by
  refine ⟨xs.takeWhile p, (xs.dropWhile p).rtakeWhile p, ?_, ?_, ?_⟩
  · rw [trim, List.append_assoc, List.rdropWhile_append_rtakeWhile, List.takeWhile_append_dropWhile]
  · exact fun x => List.mem_takeWhile_imp
  · exact fun x => List.mem_rtakeWhile_imp

theorem trim_eq_nil_iff : trim p xs = [] ↔ ∀ x ∈ xs, p x = true := by
  constructor
  · intro hnil
    obtain ⟨left, right, heq, hleft, hright⟩ := exists_append_trim p xs
    rw [hnil, List.append_nil] at heq
    rw [heq]
    exact fun x hx => (List.mem_append.mp hx).elim (hleft x) (hright x)
  · intro hall
    rw [trim, List.dropWhile_eq_nil_iff.mpr hall, List.rdropWhile_nil]

theorem filter_dropWhile (h : ∀ x, q x = true → p x = false) :
    (xs.dropWhile p).filter q = xs.filter q := by
  have hcut : (xs.takeWhile p).filter q = [] := by
    rw [List.filter_eq_nil_iff]
    intro x hx hq
    have hp := List.mem_takeWhile_imp hx
    rw [h x hq] at hp
    cases hp
  symm
  calc xs.filter q = (xs.takeWhile p ++ xs.dropWhile p).filter q := by
        rw [List.takeWhile_append_dropWhile]
    _ = (xs.dropWhile p).filter q := by rw [List.filter_append, hcut, List.nil_append]

theorem filter_trim (h : ∀ x, q x = true → p x = false) :
    (trim p xs).filter q = xs.filter q := by
  rw [trim, List.rdropWhile, List.filter_reverse, filter_dropWhile h, List.filter_reverse,
    List.reverse_reverse, filter_dropWhile h]

theorem trim_subset : trim p xs ⊆ xs :=
  fun _ h => (List.dropWhile_suffix p).subset ((List.rdropWhile_prefix p _).subset h)

end WhatsappGateway.Lib
