import WhatsappGateway.Lib.Run
import WhatsappGateway.Ratelimiter.Limiters

/-!
Runs of a fixed window limiter: calls for any keys, and resets. A call reads the clock
twice, and the second reading is not before the first.
-/

namespace WhatsappGateway.Ratelimiter

open Lib

namespace MemoryLimiter

/-- Deletes the window of a key. -/
def reset (m : MemoryLimiter) (windows : Windows) (key : String) : Windows :=
  Function.update windows (m.keyPrefix ++ key) none

inductive Action where
  | allowN (key : String) (n now later : Int)
  | reset (key : String)
deriving DecidableEq, Repr

def init : Windows := fun _ => none

def step (m : MemoryLimiter) (windows : Windows) : Action → Option Windows
  | .allowN key n now later =>
    if now ≤ later then some (m.allowN windows key n now later).1 else none
  | .reset key => some (m.reset windows key)

variable {m : MemoryLimiter} {windows : Windows} {entry : MemoryEntry} {key other : String}
  {n now later : Int}

theorem fullKey_inj : m.keyPrefix ++ key = m.keyPrefix ++ other ↔ key = other :=
  String.append_right_inj _

theorem current_none : m.current none now = ⟨0, now + m.window⟩ := rfl

theorem current_of_over (h : entry.expiresAt < now) :
    m.current (some entry) now = ⟨0, now + m.window⟩ := if_pos h

theorem current_of_running (h : now ≤ entry.expiresAt) : m.current (some entry) now = entry :=
  if_neg (not_lt.mpr h)

/-- The decision depends on the count of the current window, not on the second reading. -/
theorem allowN_allowed :
    (m.allowN windows key n now later).2.allowed = true ↔
      (m.current (windows (m.keyPrefix ++ key)) now).count + n ≤ m.limit := by
  simp only [allowN]
  split <;> simp_all

theorem allowN_granted
    (h : (m.current (windows (m.keyPrefix ++ key)) now).count + n ≤ m.limit) :
    (m.allowN windows key n now later).1 = Function.update windows (m.keyPrefix ++ key)
      (some { m.current (windows (m.keyPrefix ++ key)) now with
        count := (m.current (windows (m.keyPrefix ++ key)) now).count + n }) := by
  simp only [allowN, gt_iff_lt, if_neg (not_lt.mpr h)]

theorem allowN_denied
    (h : m.limit < (m.current (windows (m.keyPrefix ++ key)) now).count + n) :
    m.allowN windows key n now later =
      (Function.update windows (m.keyPrefix ++ key)
          (some (m.current (windows (m.keyPrefix ++ key)) now)),
        { allowed := false
          remaining := m.limit - (m.current (windows (m.keyPrefix ++ key)) now).count
          limit := m.limit
          retryAfter := (m.current (windows (m.keyPrefix ++ key)) now).expiresAt - later
          resetAfter := (m.current (windows (m.keyPrefix ++ key)) now).expiresAt - later }) := by
  simp only [allowN, gt_iff_lt, if_pos h]

/-- A call touches the window of its own key only. -/
theorem allowN_frame (h : key ≠ other) :
    (m.allowN windows key n now later).1 (m.keyPrefix ++ other) =
      windows (m.keyPrefix ++ other) := by
  have hne : m.keyPrefix ++ other ≠ m.keyPrefix ++ key := fun heq => h (fullKey_inj.mp heq).symm
  rcases le_or_gt ((m.current (windows (m.keyPrefix ++ key)) now).count + n) m.limit with hle | hlt
  · rw [allowN_granted hle, Function.update_of_ne hne]
  · rw [allowN_denied hlt]
    exact Function.update_of_ne hne _ _

theorem reset_frame (h : key ≠ other) :
    m.reset windows key (m.keyPrefix ++ other) = windows (m.keyPrefix ++ other) :=
  Function.update_of_ne (fun heq => h (fullKey_inj.mp heq).symm) _ _

theorem reset_self : m.reset windows key (m.keyPrefix ++ key) = none :=
  Function.update_self ..

end MemoryLimiter

end WhatsappGateway.Ratelimiter
