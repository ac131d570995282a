import Mathlib.Algebra.Ring.Int.Defs
import WhatsappGateway.Lib.GoTime

/-!
Integers of 64 bits, as integers with a range. An operation wraps around, and is exact when its
result is in the range.
-/

namespace WhatsappGateway.Lib

open Duration

def minInt64 : Int := -9223372036854775808

def maxInt64 : Int := 9223372036854775807

def InInt64 (n : Int) : Prop := minInt64 ≤ n ∧ n ≤ maxInt64

/-- `d << n`. -/
def shl64 (d : Int) (n : Nat) : Int := wrap64 (d * 2 ^ n)

variable {n : Int}

theorem inInt64_wrap64 (n : Int) : InInt64 (wrap64 n) := by
  have hlow := Int.le_bmod (x := n) (m := 18446744073709551616) (by omega)
  have hhigh := Int.bmod_lt (x := n) (m := 18446744073709551616) (by omega)
  unfold InInt64 wrap64 minInt64 maxInt64
  omega

theorem wrap64_eq_self_iff : wrap64 n = n ↔ InInt64 n := by
  constructor
  · intro hexact
    rw [← hexact]
    exact inInt64_wrap64 n
  · unfold InInt64 minInt64 maxInt64
    rintro ⟨hlow, hhigh⟩
    exact Int.bmod_eq_of_le (by omega) (by omega)

end WhatsappGateway.Lib
