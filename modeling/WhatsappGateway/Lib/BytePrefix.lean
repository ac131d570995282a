import Mathlib.Data.List.Basic
import Mathlib.Tactic.Ring

/-!
Byte strings as big-endian numbers. Two strings of one length have the same leading bits
exactly when their numbers are the same after a division by the power of two that drops
the other bits: so a comparison under a prefix mask is a statement about numbers.
-/

namespace WhatsappGateway.Lib

namespace Bytes

/-- The big-endian number. -/
def value : List UInt8 → Nat
  | [] => 0
  | b :: bs => b.toNat * 2 ^ (8 * bs.length) + value bs

/-- The mask of a byte of which the first `ones` bits count. -/
def maskByte (ones : Nat) : UInt8 := UInt8.ofNat (256 - 2 ^ (8 - ones))

/-- The strings have one length, and their first `ones` bits are the same. -/
def samePrefix : Nat → List UInt8 → List UInt8 → Bool
  | ones, x :: xs, y :: ys =>
    x &&& maskByte ones == y &&& maskByte ones && samePrefix (ones - 8) xs ys
  | _, [], [] => true
  | _, _, _ => false

variable {b x y : UInt8} {bs xs ys : List UInt8} {ones : Nat}

theorem value_lt : value bs < 2 ^ (8 * bs.length) := by
  induction bs with
  | nil => decide
  | cons b bs ih =>
    have hbyte : b.toNat + 1 ≤ 2 ^ 8 := b.toNat_lt
    calc b.toNat * 2 ^ (8 * bs.length) + value bs
        < b.toNat * 2 ^ (8 * bs.length) + 2 ^ (8 * bs.length) := Nat.add_lt_add_left ih _
      _ = (b.toNat + 1) * 2 ^ (8 * bs.length) := (Nat.succ_mul _ _).symm
      _ ≤ 2 ^ 8 * 2 ^ (8 * bs.length) := Nat.mul_le_mul_right _ hbyte
      _ = 2 ^ (8 * (b :: bs).length) := by rw [← pow_add, List.length_cons]; ring_nf

theorem value_append : value (xs ++ ys) = value xs * 2 ^ (8 * ys.length) + value ys := by
  induction xs with
  | nil => simp [value]
  | cons x xs ih =>
    rw [List.cons_append, value, value, ih, List.length_append, Nat.mul_add, pow_add]
    ring

/-- The number of a string determines its leading part and the rest. -/
theorem split_eq {m n u v k : Nat} (hu : u < k) (hv : v < k) (h : m * k + u = n * k + v) :
    m = n ∧ u = v := by
  have hk : 0 < k := by omega
  have hquot : (m * k + u) / k = (n * k + v) / k := by rw [h]
  have hrem : (m * k + u) % k = (n * k + v) % k := by rw [h]
  rw [Nat.add_comm, Nat.add_mul_div_right _ _ hk, Nat.add_comm (n * k),
    Nat.add_mul_div_right _ _ hk, Nat.div_eq_of_lt hu, Nat.div_eq_of_lt hv] at hquot
  rw [Nat.mul_add_mod_of_lt hu, Nat.mul_add_mod_of_lt hv] at hrem
  exact ⟨by omega, hrem⟩

theorem value_inj (hlen : xs.length = ys.length) : value xs = value ys ↔ xs = ys := by
  constructor
  · intro h
    induction xs generalizing ys with
    | nil => exact (List.length_eq_zero_iff.mp hlen.symm).symm
    | cons x xs ih =>
      obtain ⟨y, ys, rfl⟩ := List.exists_cons_of_length_eq_add_one hlen.symm
      have hrest : xs.length = ys.length := by simpa using hlen
      rw [value, value, hrest] at h
      obtain ⟨hbyte, hvalue⟩ := split_eq (hrest ▸ value_lt) value_lt h
      rw [UInt8.toNat_inj.mp hbyte, ih hrest hvalue]
  · rintro rfl
    rfl

/-- The mask clears the bits that do not count. -/
theorem and_maskByte : (x &&& maskByte ones).toNat = x.toNat / 2 ^ (8 - ones) * 2 ^ (8 - ones) := by
  have hall : ∀ k < 9, ∀ n < 256,
      (UInt8.ofNat n &&& UInt8.ofNat (256 - 2 ^ k)).toNat = n / 2 ^ k * 2 ^ k := by
    decide +kernel
  have hx := hall (8 - ones) (by omega) x.toNat x.toNat_lt
  rwa [UInt8.ofNat_toNat] at hx

theorem and_maskByte_eq_iff :
    x &&& maskByte ones = y &&& maskByte ones ↔
      x.toNat / 2 ^ (8 - ones) = y.toNat / 2 ^ (8 - ones) := by
  rw [← UInt8.toNat_inj, and_maskByte, and_maskByte]
  exact Nat.mul_left_inj (Nat.pos_iff_ne_zero.mp (Nat.two_pow_pos _))

/-- Dropping bits of the first byte only: the number of the rest does not matter. -/
theorem drop_first {n v k m : Nat} (hv : v < 2 ^ k) : (n * 2 ^ k + v) / 2 ^ (k + m) = n / 2 ^ m := by
  rw [pow_add, ← Nat.div_div_eq_div_mul, Nat.mul_comm, Nat.mul_add_div (Nat.two_pow_pos k),
    Nat.div_eq_of_lt hv, Nat.add_zero]

/-- Dropping bits of the rest only. -/
theorem drop_rest {n v k m : Nat} :
    (n * 2 ^ (k + m) + v) / 2 ^ k = n * 2 ^ m + v / 2 ^ k := by
  rw [pow_add, Nat.mul_left_comm, Nat.mul_add_div (Nat.two_pow_pos k)]

/-- Strings of one length have the same leading bits when their numbers do. -/
theorem samePrefix_iff (hlen : xs.length = ys.length) (hones : ones ≤ 8 * xs.length) :
    samePrefix ones xs ys = true ↔
      value xs / 2 ^ (8 * xs.length - ones) = value ys / 2 ^ (8 * xs.length - ones) := by
  induction xs generalizing ys ones with
  | nil =>
    obtain rfl := List.length_eq_zero_iff.mp hlen.symm
    simp [samePrefix]
  | cons x xs ih =>
    obtain ⟨y, ys, rfl⟩ := List.exists_cons_of_length_eq_add_one hlen.symm
    have hrest : xs.length = ys.length := by simpa using hlen
    have hxs : value xs < 2 ^ (8 * xs.length) := value_lt
    have hys : value ys < 2 ^ (8 * xs.length) := hrest ▸ value_lt
    simp only [List.length_cons] at hones
    rw [samePrefix, Bool.and_eq_true, beq_iff_eq, and_maskByte_eq_iff,
      ih hrest (by omega), value, value, List.length_cons, ← hrest]
    rcases Nat.le_total ones 8 with hfirst | hwhole
    · -- the bits that count are in the first byte
      have hsplit : 8 * (xs.length + 1) - ones = 8 * xs.length + (8 - ones) := by omega
      have hnone : ones - 8 = 0 := by omega
      rw [hsplit, hnone, drop_first hxs, drop_first hys, Nat.sub_zero, Nat.div_eq_of_lt hxs,
        Nat.div_eq_of_lt hys]
      exact and_iff_left rfl
    · -- the first byte counts as a whole
      obtain ⟨k, m, hlength, hk⟩ : ∃ k m, 8 * xs.length = k + m ∧ 8 * xs.length - (ones - 8) = k :=
        ⟨8 * xs.length - (ones - 8), ones - 8, by omega, rfl⟩
      have hall : 8 * (xs.length + 1) - ones = k := by omega
      have hbyte : 8 - ones = 0 := by omega
      rw [hall, hk, hbyte, pow_zero, Nat.div_one, Nat.div_one]
      rw [hlength] at hxs hys ⊢
      rw [drop_rest, drop_rest]
      have hltx : value xs / 2 ^ k < 2 ^ m := Nat.div_lt_of_lt_mul (pow_add 2 k m ▸ hxs)
      have hlty : value ys / 2 ^ k < 2 ^ m := Nat.div_lt_of_lt_mul (pow_add 2 k m ▸ hys)
      constructor
      · rintro ⟨hx, hv⟩
        rw [hx, hv]
      · exact split_eq hltx hlty

end Bytes

end WhatsappGateway.Lib
