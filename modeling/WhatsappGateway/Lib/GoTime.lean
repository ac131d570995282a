import Mathlib.Data.Int.Init

/-!
Durations as Go's `time` package has them: signed 64-bit counts of nanoseconds.
An instant is a count of nanoseconds from a fixed origin, so the difference of
two instants is a duration; both are of type `Int`. Only the conversion of a
configured number of seconds comes near the 64-bit range, so only that
conversion wraps.
-/

namespace WhatsappGateway.Lib

namespace Duration

def second : Int := 1000000000

/-- Two's-complement wrap to 64 bits; the modulus is 2 to the 64. -/
def wrap64 (n : Int) : Int := n.bmod 18446744073709551616

/-- `time.Duration(n) * time.Second`. -/
def seconds (n : Int) : Int := wrap64 (n * second)

/-- `Duration.Milliseconds`: whole milliseconds, rounded towards zero. -/
def milliseconds (d : Int) : Int := d.tdiv 1000000

end Duration

end WhatsappGateway.Lib
