-- Times as callers give them: the fields of a local clock, and perhaps an
-- offset from UTC. Arithmetic is on the local clock.
import MomentInsights.Time.Instant

namespace MomentInsights

/-- `wall` is what the local clock shows. Without an offset it shows UTC. -/
structure Timestamp where
  wall : Instant
  offset : Option Duration
  deriving DecidableEq, Repr

namespace Timestamp

def ofInstant (t : Instant) : Timestamp := ⟨t, some Duration.zero⟩

/-- The instant, unless UTC shows a year outside the range. -/
def utc (t : Timestamp) : Except Failure Instant :=
  match t.offset with
  | none => .ok t.wall
  | some d =>
    match t.wall.add? ⟨-d.micros⟩ with
    | some u => .ok u
    | none => .error .dateOutOfRange

/-- The local clock moved by `d`; past the end of the range it is the last or
the first instant in UTC. -/
def shift (t : Timestamp) (d : Duration) : Timestamp :=
  match t.wall.add? d with
  | some w => { t with wall := w }
  | none => ofInstant (if 0 < d.micros then Instant.last else Instant.first)

/-- The local clock moved by `d`, if it stays in the range. -/
def add (t : Timestamp) (d : Duration) : Except Failure Timestamp :=
  match t.wall.add? d with
  | some w => .ok { t with wall := w }
  | none => .error .dateOutOfRange

/-- The time from `a` to `b`: of two clocks with offsets in UTC, of two without
as they stand. -/
def spanTo (a b : Timestamp) : Except Failure Duration :=
  match a.offset, b.offset with
  | some x, some y => .ok ⟨(a.wall.spanTo b.wall).micros + x.micros - y.micros⟩
  | none, none => .ok (a.wall.spanTo b.wall)
  | _, _ => .error .mixedClocks

/-- The whole days from `a` to `b`, both taken to UTC first, truncated toward zero. -/
def wholeDaysBetween (a b : Timestamp) : Except Failure Int := do
  let later ← b.utc
  let earlier ← a.utc
  return earlier.wholeDaysBetween later

/-! ## Laws -/

/-- An instant is its own time in UTC. -/
theorem utc_ofInstant (t : Instant) : (ofInstant t).utc = .ok t := by
  have h : t.add? ⟨-Duration.zero.micros⟩ = some t :=
    Instant.ofMicros?_eq_some.2 (by simp [Duration.zero])
  simp [utc, ofInstant, h]

end Timestamp

end MomentInsights
