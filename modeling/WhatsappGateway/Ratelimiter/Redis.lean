import WhatsappGateway.Ratelimiter.Limiters

/-!
The limiter that keeps its counters in Redis. Its script runs there as one step, and
consists of the commands `INCRBY`, `PEXPIRE` and `PTTL`. When exactly a key with an expiry
is gone, what `PTTL` reports, and which integers a number of Lua can represent are left to
Redis.
-/

namespace WhatsappGateway.Ratelimiter

open Lib

/-- A counter. `expiry` is the instant at which `PEXPIRE` was given it, and for how many
milliseconds. -/
structure RedisEntry where
  value : Int
  expiry : Option (Int × Int) := none
deriving DecidableEq, Repr

abbrev Database := String → Option RedisEntry

/-- `expired` and `remaining` are asked with an expiry and an instant; `number` converts an
integer to a number of Lua and back. -/
structure Redis where
  expired : Int × Int → Int → Bool
  remaining : Int × Int → Int → Int
  number : Int → Int

namespace Redis

/-- The range of a signed 64-bit integer. -/
def fits (n : Int) : Prop := -9223372036854775808 ≤ n ∧ n ≤ 9223372036854775807

instance (n : Int) : Decidable (fits n) := inferInstanceAs (Decidable (_ ∧ _))

/-- A key that has expired is not there. -/
def lookup (r : Redis) (db : Database) (key : String) (now : Int) : Option RedisEntry :=
  (db key).filter fun entry => !entry.expiry.any fun expiry => r.expired expiry now

/-- The counter of a key; 0 when there is none. -/
def count (r : Redis) (db : Database) (key : String) (now : Int) : Int :=
  ((r.lookup db key now).map RedisEntry.value).getD 0

/-- An increment keeps the expiry, and fails when it would overflow. -/
def incrBy (r : Redis) (db : Database) (key : String) (n now : Int) :
    Except String (Database × Int) :=
  let current := r.count db key now + n
  if fits current then
    let expiry := (r.lookup db key now).bind RedisEntry.expiry
    .ok (Function.update db key (some ⟨current, expiry⟩), current)
  else .error "ERR increment or decrement would overflow"

/-- An expiry that is not positive deletes the key. -/
def pexpire (db : Database) (key : String) (windowMs now : Int) : Database :=
  Function.update db key <|
    if windowMs ≤ 0 then none
    else (db key).map fun entry => { entry with expiry := some (now, windowMs) }

def pttl (r : Redis) (db : Database) (key : String) (now : Int) : Int :=
  match r.lookup db key now with
  | none => -2
  | some entry =>
    match entry.expiry with
    | none => -1
    | some expiry => r.remaining expiry now

/-- The counter after the increment, and the time to live. The first increment of a counter
is recognised by its value. -/
def luaScript (r : Redis) (db : Database) (key : String) (n windowMs now : Int) :
    Except String (Database × Int × Int) :=
  match r.incrBy db key n now with
  | .error err => .error err
  | .ok (db, current) =>
    let db := if r.number current = r.number n then pexpire db key windowMs now else db
    .ok (db, r.number current, r.pttl db key now)

variable {r : Redis} {db : Database} {key other : String} {n windowMs now : Int}

theorem incrBy_of_fits (hfits : fits (r.count db key now + n)) :
    r.incrBy db key n now =
      .ok (Function.update db key (some ⟨r.count db key now + n,
        (r.lookup db key now).bind RedisEntry.expiry⟩), r.count db key now + n) := by
  unfold incrBy
  exact if_pos hfits

theorem pexpire_other (hother : other ≠ key) : pexpire db key windowMs now other = db other :=
  Function.update_of_ne hother _ _

/-- Setting an expiry keeps the value, unless it deletes the key. -/
theorem pexpire_value {value : Int} (hvalue : (db key).map RedisEntry.value = some value)
    {entry : RedisEntry} (hentry : pexpire db key windowMs now key = some entry) :
    entry.value = value := by
  rw [pexpire, Function.update_self] at hentry
  split at hentry
  · cases hentry
  · obtain ⟨stored, hstored, rfl⟩ := Option.map_eq_some_iff.mp hentry
    simpa [hstored] using hvalue

/-- The script counts the request, whether or not it will be granted, and touches no other
key. -/
theorem luaScript_of_fits (windowMs : Int) (hfits : fits (r.count db key now + n)) :
    ∃ next ttlMs,
      r.luaScript db key n windowMs now =
        .ok (next, r.number (r.count db key now + n), ttlMs) ∧
      (∀ entry, next key = some entry → entry.value = r.count db key now + n) ∧
      ∀ other, other ≠ key → next other = db other := by
  simp only [luaScript, incrBy_of_fits hfits]
  refine ⟨_, _, rfl, ?_, ?_⟩
  · intro entry hentry
    split at hentry
    · exact pexpire_value (by simp) hentry
    · rw [Function.update_self] at hentry
      cases hentry
      rfl
  · intro other hother
    split
    · rw [pexpire_other hother, Function.update_of_ne hother]
    · rw [Function.update_of_ne hother]

end Redis

structure RedisLimiter where
  limit : Int
  window : Int
  keyPrefix : String
deriving DecidableEq, Repr

namespace RedisLimiter

/-- An error of the script leaves the database as it was. -/
def allowN (m : RedisLimiter) (r : Redis) (db : Database) (key : String) (n now : Int) :
    Database × Except String Result :=
  match r.luaScript db (m.keyPrefix ++ key) n (Duration.milliseconds m.window) now with
  | .error err => (db, .error err)
  | .ok (db, current, ttlMs) =>
    let remaining := m.limit - current
    (db, .ok
      { allowed := current ≤ m.limit
        remaining := if remaining < 0 then 0 else remaining
        limit := m.limit
        retryAfter := ttlMs * 1000000
        resetAfter := ttlMs * 1000000 })

end RedisLimiter

end WhatsappGateway.Ratelimiter
