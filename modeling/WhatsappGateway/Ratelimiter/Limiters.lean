import Mathlib.Algebra.Order.Field.Rat
import Mathlib.Logic.Function.Basic
import WhatsappGateway.Lib.GoTime

/-!
The in-memory limiters: a token bucket for each key, and a fixed window for each
key. A call of `AllowN` holds the limiter's mutex, so it is one step. Tokens and
rates are exact rationals here, where the source has `float64`.
-/

namespace WhatsappGateway.Ratelimiter

open Lib

structure Result where
  allowed : Bool
  remaining : Int := 0
  limit : Int := 0
  retryAfter : Int := 0
  resetAfter : Int := 0
deriving DecidableEq, Repr

structure RateLimitError where
  retryAfter : Int
  limit : Int := 0
  remaining : Int := 0
deriving DecidableEq, Repr

/-- Conversion of a float to an integer: towards zero. -/
def truncate (q : ℚ) : Int := q.num.tdiv q.den

/-! ### Token bucket -/

structure TokenBucketConfig where
  rate : ℚ
  burst : ℚ
  keyPrefix : String

/-- The bucket refills at a positive rate and holds at least one token. -/
structure TokenBucketLimiter where
  rate : ℚ
  burst : ℚ
  keyPrefix : String
  rate_pos : 0 < rate
  one_le_burst : 1 ≤ burst

def newTokenBucketLimiter (cfg : TokenBucketConfig) : TokenBucketLimiter where
  rate := if cfg.rate ≤ 0 then 1 else cfg.rate
  burst := if cfg.burst < 1 then 1 else cfg.burst
  keyPrefix := cfg.keyPrefix
  rate_pos := by split <;> simp_all
  one_le_burst := by split <;> simp_all

structure TbEntry where
  tokens : ℚ
  last : Int
deriving DecidableEq, Repr

abbrev Buckets := String → Option TbEntry

namespace TokenBucketLimiter

/-- The entry of a key, refilled by the time since it was last refilled. A clock that
steps back adds nothing. -/
def refill (t : TokenBucketLimiter) (entry : Option TbEntry) (now : Int) : TbEntry :=
  match entry with
  | none => ⟨t.burst, now⟩
  | some e =>
    let elapsed : ℚ := (now - e.last : Int) / Duration.second
    if 0 < elapsed then ⟨min t.burst (e.tokens + elapsed * t.rate), now⟩ else e

def allowN (t : TokenBucketLimiter) (buckets : Buckets) (key : String) (n now : Int) :
    Buckets × Result :=
  let need : ℚ := if n ≤ 0 then 1 else n
  let fullKey := t.keyPrefix ++ key
  let e := t.refill (buckets fullKey) now
  if need ≤ e.tokens then
    let left := e.tokens - need
    (Function.update buckets fullKey (some { e with tokens := left }),
      { allowed := true, remaining := truncate left, limit := truncate t.burst })
  else
    let retryAfter := truncate ((need - e.tokens) / t.rate * Duration.second)
    (Function.update buckets fullKey (some e),
      { allowed := false
        remaining := truncate e.tokens
        limit := truncate t.burst
        retryAfter := retryAfter
        resetAfter := retryAfter })

end TokenBucketLimiter

/-! ### Fixed window -/

structure MemoryLimiter where
  limit : Int
  window : Int
  keyPrefix : String
deriving DecidableEq, Repr

structure MemoryEntry where
  count : Int
  expiresAt : Int
deriving DecidableEq, Repr

abbrev Windows := String → Option MemoryEntry

namespace MemoryLimiter

/-- The entry of a key: a new window when there is none or it has expired. -/
def current (m : MemoryLimiter) (entry : Option MemoryEntry) (now : Int) : MemoryEntry :=
  match entry with
  | none => ⟨0, now + m.window⟩
  | some entry => if now > entry.expiresAt then ⟨0, now + m.window⟩ else entry

/-- The clock is read a second time, `later`, for the times that are reported. -/
def allowN (m : MemoryLimiter) (windows : Windows) (key : String) (n now later : Int) :
    Windows × Result :=
  let fullKey := m.keyPrefix ++ key
  let entry := m.current (windows fullKey) now
  if entry.count + n > m.limit then
    (Function.update windows fullKey (some entry),
      { allowed := false
        remaining := m.limit - entry.count
        limit := m.limit
        retryAfter := entry.expiresAt - later
        resetAfter := entry.expiresAt - later })
  else
    (Function.update windows fullKey (some { entry with count := entry.count + n }),
      { allowed := true
        remaining := m.limit - (entry.count + n)
        limit := m.limit
        resetAfter := entry.expiresAt - later })

end MemoryLimiter

end WhatsappGateway.Ratelimiter
