import Mathlib.Data.Finset.Dedup
import Mathlib.Data.Finset.Card
import Mathlib.Data.List.Induction

/-!
Collecting the distinct elements of a list in one pass, each where it first occurs.
-/

namespace WhatsappGateway.Lib

variable {α : Type*} [DecidableEq α] {xs out other : List α} {x y : α}

/-- The element at the end, unless it is there already. -/
def collect (out : List α) (x : α) : List α := if x ∈ out then out else out ++ [x]

/-- `out` has each element of `xs`, in the order in which they first occur. -/
structure FirstOccurrences (xs out : List α) : Prop where
  mem_iff : ∀ x, x ∈ out ↔ x ∈ xs
  order : out.Pairwise fun x y => xs.idxOf x < xs.idxOf y

namespace FirstOccurrences

theorem nodup (h : FirstOccurrences xs out) : out.Nodup :=
  h.order.imp fun hlt heq => (heq ▸ hlt).false

theorem length_eq (h : FirstOccurrences xs out) : out.length = xs.toFinset.card := by
  rw [← List.toFinset_card_of_nodup h.nodup]
  congr 1
  ext x
  rw [List.mem_toFinset, List.mem_toFinset, h.mem_iff]

theorem nil : FirstOccurrences ([] : List α) [] := ⟨fun _ => Iff.rfl, List.Pairwise.nil⟩

theorem concat (h : FirstOccurrences xs out) (x : α) :
    FirstOccurrences (xs ++ [x]) (collect out x) := by
  have hold : out.Pairwise fun x' y => (xs ++ [x]).idxOf x' < (xs ++ [x]).idxOf y := by
    refine h.order.imp_of_mem ?_
    intro y z hy hz hlt
    rwa [List.idxOf_append_of_mem ((h.mem_iff y).mp hy),
      List.idxOf_append_of_mem ((h.mem_iff z).mp hz)]
  unfold collect
  split
  next hseen =>
    refine ⟨fun y => ?_, hold⟩
    rw [h.mem_iff, List.mem_append, List.mem_singleton]
    refine ⟨.inl, ?_⟩
    rintro (hy | rfl)
    · exact hy
    · exact (h.mem_iff y).mp hseen
  next hnew =>
    refine ⟨fun y => by rw [List.mem_append, List.mem_append, h.mem_iff], ?_⟩
    have hfresh : x ∉ xs := fun hx => hnew ((h.mem_iff x).mpr hx)
    refine List.pairwise_append.mpr ⟨hold, List.pairwise_singleton _ _, ?_⟩
    intro y hy z hz
    obtain rfl := List.mem_singleton.mp hz
    have hold : y ∈ xs := (h.mem_iff y).mp hy
    rw [List.idxOf_append_of_mem hold, List.idxOf_append_of_notMem hfresh]
    exact Nat.lt_add_right _ (List.idxOf_lt_length_of_mem hold)

/-- One pass collects the first occurrences. -/
theorem foldl_collect (xs : List α) : FirstOccurrences xs (xs.foldl collect []) := by
  induction xs using List.reverseRecOn with
  | nil => exact nil
  | append_singleton xs x ih =>
    rw [List.foldl_append]
    exact ih.concat x

end FirstOccurrences

section Fallible

variable {β ε : Type*} {f : β → Except ε α} {ys : List β}

/-- The step of a pass that computes its elements, and may fail to. -/
def collectM (f : β → Except ε α) (out : List α) (y : β) : Except ε (List α) := do
  let x ← f y
  return collect out x

/-- Such a pass succeeds when all the elements are computed. -/
theorem foldlM_collectM :
    ys.foldlM (collectM f) out = .ok other ↔
      (∀ y ∈ ys, ∃ x, f y = .ok x) ∧
        other = (ys.filterMap fun y => (f y).toOption).foldl collect out := by
  induction ys generalizing out with
  | nil => simp [pure, Except.pure, eq_comm]
  | cons y ys ih =>
    rw [List.foldlM_cons, collectM]
    cases hy : f y with
    | error err => simp [bind, Except.bind, hy]
    | ok x =>
      have hnext : (Except.ok (collect out x) >>= ys.foldlM (collectM f)) =
          ys.foldlM (collectM f) (collect out x) := rfl
      refine (Eq.congr_left hnext).trans ?_
      rw [ih, List.filterMap_cons, hy]
      simp [Except.toOption, hy]

end Fallible

end WhatsappGateway.Lib
