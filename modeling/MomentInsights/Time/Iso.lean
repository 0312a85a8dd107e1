-- Dates and times as ISO 8601 text, and the range of times that callers may
-- ask about.
import MomentInsights.Number.Binary64
import MomentInsights.Time.Timestamp

namespace MomentInsights

def Date.text (d : Date) : String :=
  s!"{padded 4 d.year}-{padded 2 d.month}-{padded 2 d.day}"

namespace Instant

/-- `HH:MM:SS`, and six more digits when the microseconds are not zero. -/
def Clock.text (c : Clock) : String :=
  let whole := s!"{padded 2 c.hour}:{padded 2 c.minute}:{padded 2 c.second}"
  if c.micro = 0 then whole else s!"{whole}.{padded 6 c.micro}"

/-- The fields without an offset. -/
def plainText (t : Instant) : String := s!"{t.date.text}T{t.clock.text}"

/-- The fields in UTC with the offset written out. -/
def text (t : Instant) : String := t.plainText ++ "+00:00"

/-- The fields in UTC, marked by a `Z`. -/
def zuluText (t : Instant) : String := t.plainText ++ "Z"

/-- The fields to the minute, for people. The year has no zeros in front. -/
def minuteText (t : Instant) : String :=
  let d := t.date
  let c := t.clock
  s!"{d.year}-{padded 2 d.month}-{padded 2 d.day} {padded 2 c.hour}:{padded 2 c.minute} UTC"

end Instant

/-- `+HH:MM`, with seconds and microseconds only where they are not zero. -/
def Duration.offsetText (d : Duration) : String :=
  let n := d.micros.natAbs
  let s := n / 1000000
  let sign := if d.micros < 0 then "-" else "+"
  let minutes := s!"{sign}{padded 2 (s / 3600)}:{padded 2 (s / 60 % 60)}"
  if n % 1000000 ≠ 0 then s!"{minutes}:{padded 2 (s % 60)}.{padded 6 (n % 1000000)}"
  else if s % 60 ≠ 0 then s!"{minutes}:{padded 2 (s % 60)}"
  else minutes

namespace Timestamp

def text (t : Timestamp) : String :=
  t.wall.plainText ++ (match t.offset with | some d => d.offsetText | none => "")

/-! ## Supported times -/

/-- The start of 1970. -/
def earliestSupported : Instant := Instant.epoch

/-- The start of the year 9000, the first instant that is not supported. Every
window, cooldown end and expiry of a supported time is an instant. -/
def latestSupported : Instant := ⟨283980988800000000, by decide⟩

/-- The instant, if callers may ask about it. -/
def supported (t : Timestamp) : Except Failure Instant :=
  match t.utc with
  | .error _ => .error (.unsupportedTime t.text none)
  | .ok u =>
    if earliestSupported ≤ u ∧ u < latestSupported then .ok u
    else .error (.unsupportedTime u.text (some (earliestSupported.text, latestSupported.text)))

example : latestSupported.date = ⟨9000, 1, 1⟩ := by decide

end Timestamp

end MomentInsights
