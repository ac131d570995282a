import Mathlib.Tactic.Ring
import Mathlib.Tactic.Positivity

/-!
The time of repeated attempts with a pause before each but the first. The pauses double.
-/

namespace WhatsappGateway.Lib

/-- The pause before an attempt, which are counted from 0. -/
def pauseBefore (base : Int) : Nat → Int
  | 0 => 0
  | n + 1 => base * 2 ^ n

/-- The time of the first `n` attempts of `each`, with their pauses. -/
def attemptsTime (each base : Int) : Nat → Int
  | 0 => 0
  | n + 1 => attemptsTime each base n + each + pauseBefore base n

variable {each base : Int}

theorem attemptsTime_eq (each base : Int) (n : Nat) :
    attemptsTime each base (n + 1) = each * (n + 1) + base * (2 ^ n - 1) := by
  induction n with
  | zero => simp [attemptsTime, pauseBefore]
  | succ n ih =>
    rw [attemptsTime, ih, pauseBefore, pow_succ]
    push_cast
    ring

theorem pauseBefore_nonneg (hbase : 0 ≤ base) (n : Nat) : 0 ≤ pauseBefore base n := by
  cases n with
  | zero => exact le_rfl
  | succ n =>
    unfold pauseBefore
    positivity

theorem attemptsTime_le (heach : 0 ≤ each) (hbase : 0 ≤ base) {n m : Nat} (hle : n ≤ m) :
    attemptsTime each base n ≤ attemptsTime each base m := by
  induction hle with
  | refl => exact Int.le_refl _
  | @step m _ ih =>
    have hpause := pauseBefore_nonneg hbase m
    rw [attemptsTime]
    omega

/-- A pause fits into the time of the attempts before which it is. -/
theorem pauseBefore_le (heach : 0 ≤ each) (hbase : 0 ≤ base) {n m : Nat} (hn : n < m) :
    pauseBefore base n ≤ attemptsTime each base m := by
  have hbefore := attemptsTime_le heach hbase hn
  have hstart : 0 ≤ attemptsTime each base n := attemptsTime_le heach hbase n.zero_le
  rw [attemptsTime] at hbefore
  omega

end WhatsappGateway.Lib
