-- Durations in microseconds, at most 999999999 days long in either direction.
import MomentInsights.Failure
import MomentInsights.Number.Binary64

namespace MomentInsights

structure Duration where
  micros : Int
  deriving DecidableEq, Repr

namespace Duration

/-- The microseconds of a day. -/
def dayMicros : Nat := 86400000000

def secondMicros : Nat := 1000000

def zero : Duration := ⟨0⟩

/-- Whole days; the fixed windows of the analysis are written with it. -/
def days (n : Nat) : Duration := ⟨n * dayMicros⟩

/-- The number of days, rounded down. -/
def wholeDays (d : Duration) : Int := d.micros.fdiv dayMicros

/-- The duration, unless it has too many days. -/
def bounded (d : Duration) : Except Failure Duration :=
  if d.wholeDays.natAbs ≤ 999999999 then .ok d else .error (.durationTooLong d.wholeDays)

/-- The duration, unless its days do not fit 32 bits or are too many. -/
def checked (d : Duration) : Except Failure Duration :=
  if d.wholeDays < -2147483648 ∨ 2147483647 < d.wholeDays then .error .dayCountTooLarge
  else d.bounded

def neg (d : Duration) : Except Failure Duration := bounded ⟨-d.micros⟩

/-! ## From numbers of units -/

/-- The units of a duration, the finest first. -/
inductive Part where
  | microseconds
  | seconds
  | minutes
  | hours
  | days
  | weeks
  deriving DecidableEq, Repr

def Part.all : List Part := [.microseconds, .seconds, .minutes, .hours, .days, .weeks]

/-- The microseconds of one unit. -/
def Part.micros : Part → Nat
  | microseconds => 1
  | seconds => 1000000
  | minutes => 60000000
  | hours => 3600000000
  | days => 86400000000
  | weeks => 604800000000

/-- Whole microseconds so far, and a remainder below a microsecond per part. -/
structure Sum where
  micros : Int
  left : Binary64

/-- Adds `n` units. The fraction of a unit is turned into microseconds by one
rounded product. -/
def Sum.plus (s : Sum) (part : Part) : Number → Except Failure Sum
  | .whole n => .ok { s with micros := s.micros + n * part.micros }
  | .real x =>
    match x.truncate? with
    | none => .error (if x = .nan then .notANumber else .infiniteNumber)
    | some n =>
      let micros := s.micros + n * part.micros
      let rest := x.fraction
      if rest.le .zero && Binary64.zero.le rest then .ok { s with micros := micros }
      else
        let scaled := Binary64.ofInt part.micros * rest
        .ok ⟨micros + (scaled.truncate?).getD 0, s.left + scaled.fraction⟩

/-- The nearest whole number of microseconds, a half to the even one. -/
def Sum.rounded (s : Sum) : Int :=
  match s.left with
  | .finite n a =>
    let steps := s.micros * (Binary64.one : Int) + Binary64.signedSteps n a
    Binary64.signedSteps (steps < 0) (Binary64.nearestEven steps.natAbs Binary64.one)
  | _ => s.micros

/-- The duration of the given numbers of units. -/
def ofParts (parts : List (Part × Number)) : Except Failure Duration := do
  let sum ← parts.foldlM (fun s p => s.plus p.1 p.2) (Sum.mk 0 .zero)
  checked ⟨sum.rounded⟩

def ofDays (n : Number) : Except Failure Duration := ofParts [(.days, n)]

def ofSeconds (n : Number) : Except Failure Duration := ofParts [(.seconds, n)]

/-- The number of seconds, rounded once. -/
def seconds (d : Duration) : Binary64 := Binary64.ofRatio d.micros secondMicros

end Duration

end MomentInsights
