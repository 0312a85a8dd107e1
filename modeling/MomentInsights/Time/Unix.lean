-- Instants from seconds since 1970.
import MomentInsights.Number.Binary64
import MomentInsights.Time.Instant

namespace MomentInsights.Unix

/-- The seconds of the first instant of a year, of any year at all. -/
def yearStart (year : Int) : Int :=
  let y := year - 1
  (365 * y + y.fdiv 4 - y.fdiv 100 + y.fdiv 400 - 719162) * 86400

/-- The seconds whose year, counted from 1900, fits 32 bits: from the first of
these to before the second. -/
def clockLimits : Int × Int := (yearStart (1900 - 2147483648), yearStart (1900 + 2147483648))

/-- The instant; none outside the years 1 to 9999. A year that does not fit 32
bits is a failure. -/
def ofSeconds (seconds : Int) (micros : Nat) : Except Failure (Option Instant) :=
  if seconds < clockLimits.1 ∨ clockLimits.2 ≤ seconds then .error .clockOverflow
  else .ok (Instant.ofUnixMicros? (seconds * 1000000 + micros))

/-- Whole seconds and microseconds of a binary number of seconds. Its fraction
is scaled by one rounded product, and a half goes to the even microsecond. -/
def split? (x : Binary64) : Option (Int × Nat) := do
  let seconds ← x.truncate?
  let micros ← (x.fraction * Binary64.ofInt 1000000).roundHalfEven?
  if 1000000 ≤ micros then some (seconds + 1, (micros - 1000000).toNat)
  else if micros < 0 then some (seconds - 1, (micros + 1000000).toNat)
  else some (seconds, micros.toNat)

/-- The instant of a number of seconds; none for one that is no whole number of
seconds in 64 bits, whatever its fraction. -/
def ofNumber (n : Number) : Except Failure (Option Instant) :=
  let parts := match n with
    | .whole n => some (n, 0)
    | .real x => split? x
  match parts with
  | none => .ok none
  | some (seconds, micros) => if fitsWord seconds then ofSeconds seconds micros else .ok none

end MomentInsights.Unix
