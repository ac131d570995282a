import Mathlib.Data.Int.Order.Basic
import Mathlib.Tactic.Ring

/-!
A ring of slots, written at a head that goes up and read from below the head going
down, both with wrap-around. What it holds is a list: the elements written last, newest
first, as many as there are slots at most.
-/

namespace WhatsappGateway.Lib

variable {α : Type*} {capacity head : ℤ} {slots recent : List α} {age : ℕ}

/-- The slot that was written `age` writes before the newest. -/
def ringIndex (capacity head age : ℤ) : ℤ := (head - 1 - age) % capacity

theorem ringIndex_nonneg (hcapacity : 0 < capacity) (age : ℤ) :
    0 ≤ ringIndex capacity head age :=
  Int.emod_nonneg _ hcapacity.ne'

/-- Reading goes down. -/
theorem ringIndex_pred (capacity head age : ℤ) :
    (ringIndex capacity head age - 1 + capacity) % capacity =
      ringIndex capacity head (age + 1) := by
  unfold ringIndex
  rw [Int.add_emod_right, Int.emod_sub_emod]
  congr 1
  ring

theorem ringIndex_zero (capacity head : ℤ) :
    (head - 1 + capacity) % capacity = ringIndex capacity head 0 := by
  rw [ringIndex, Int.add_emod_right, sub_zero]

/-- Writing moves the head up, and what was written before gets older by one. -/
theorem ringIndex_succ (capacity head age : ℤ) :
    ringIndex capacity ((head + 1) % capacity) (age + 1) = ringIndex capacity head age := by
  unfold ringIndex
  rw [sub_sub, Int.emod_sub_emod]
  congr 1
  ring

theorem ringIndex_newest (hnonneg : 0 ≤ head) (hlt : head < capacity) :
    ringIndex capacity ((head + 1) % capacity) 0 = head := by
  unfold ringIndex
  rw [sub_zero, Int.emod_sub_emod, add_sub_cancel_right]
  exact Int.emod_eq_of_lt hnonneg hlt

/-- No slot that is still younger than the capacity lies at the head. -/
theorem ringIndex_ne_head (hage : (age : ℤ) + 1 < capacity) :
    ringIndex capacity head age ≠ head := by
  unfold ringIndex
  intro heq
  have hdvd : capacity ∣ (age : ℤ) + 1 := by
    refine ⟨-((head - 1 - age) / capacity), ?_⟩
    have hdiv := Int.emod_add_mul_ediv (head - 1 - age) capacity
    rw [heq] at hdiv
    rw [Int.mul_neg]
    omega
  have hle := Int.le_of_dvd (by omega) hdvd
  omega

/-- Below the head lie the elements of `recent`, newest first. -/
structure RingHolds (slots : List α) (head : ℤ) (recent : List α) : Prop where
  head_nonneg : 0 ≤ head
  head_lt : head < slots.length
  length_le : recent.length ≤ slots.length
  read : ∀ age : ℕ, age < recent.length →
    slots[(ringIndex slots.length head age).toNat]? = recent[age]?

namespace RingHolds

theorem capacity_pos (h : RingHolds slots head recent) : (0 : ℤ) < slots.length :=
  lt_of_le_of_lt h.head_nonneg h.head_lt

theorem empty (hslots : 0 < slots.length) : RingHolds slots 0 [] where
  head_nonneg := le_rfl
  head_lt := by exact_mod_cast hslots
  length_le := Nat.zero_le _
  read := by
    intro age hage
    cases hage

/-- A write at the head drops what is older than the capacity. -/
theorem push (h : RingHolds slots head recent) (x : α) :
    RingHolds (slots.set head.toNat x) ((head + 1) % slots.length)
      ((x :: recent).take slots.length) where
  head_nonneg := Int.emod_nonneg _ h.capacity_pos.ne'
  head_lt := by
    rw [List.length_set]
    exact Int.emod_lt_of_pos _ h.capacity_pos
  length_le := by
    rw [List.length_set]
    exact List.length_take_le _ _
  read := by
    intro age hage
    have hage : age < slots.length ∧ age < recent.length + 1 := by
      simpa [List.length_take] using hage
    rw [List.length_set, List.getElem?_take_of_lt hage.1]
    cases age with
    | zero =>
      have hhead : head.toNat < slots.length := by
        have := h.head_lt
        have := h.head_nonneg
        omega
      rw [Nat.cast_zero, ringIndex_newest h.head_nonneg h.head_lt, List.getElem?_set_self hhead]
      rfl
    | succ age =>
      have hne : ringIndex slots.length head age ≠ head := ringIndex_ne_head (by omega)
      have hnonneg := @ringIndex_nonneg _ head h.capacity_pos age
      have hne' : head.toNat ≠ (ringIndex slots.length head age).toNat := by
        have := h.head_nonneg
        omega
      rw [Nat.cast_succ, ringIndex_succ, List.getElem?_set_ne hne']
      exact h.read age (by omega)

end RingHolds

/-- Dropping before a write and after it is dropping after it. -/
theorem take_cons_take (n : ℕ) (x : α) (xs : List α) :
    (x :: xs.take n).take n = (x :: xs).take n := by
  cases n with
  | zero => rfl
  | succ n =>
    rw [List.take_succ_cons, List.take_succ_cons, List.take_take, min_eq_left n.le_succ]

end WhatsappGateway.Lib
