-- Instants of the years 1 to 9999, to the microsecond. Moving an instant past
-- either end of the range stops at that end.
import MomentInsights.Time.Calendar
import MomentInsights.Time.Duration

namespace MomentInsights

/-- Microseconds since the start of year 1. -/
structure Instant where
  micros : Nat
  inRange : micros < 315537897600000000
  deriving DecidableEq, Repr

namespace Instant

/-- The number of instants. -/
def count : Nat := 315537897600000000

theorem count_eq : count = Date.dayCount * Duration.dayMicros := by decide

instance : LE Instant := ⟨fun a b => a.micros ≤ b.micros⟩
instance : LT Instant := ⟨fun a b => a.micros < b.micros⟩
instance (a b : Instant) : Decidable (a ≤ b) := inferInstanceAs (Decidable (a.micros ≤ b.micros))
instance (a b : Instant) : Decidable (a < b) := inferInstanceAs (Decidable (a.micros < b.micros))

def first : Instant := ⟨0, by decide⟩

def last : Instant := ⟨count - 1, by decide⟩

instance : Inhabited Instant := ⟨first⟩

/-- The instant with that many microseconds, if there is one. -/
def ofMicros? (n : Int) : Option Instant :=
  if h : n.toNat < 315537897600000000 then
    if 0 ≤ n then some ⟨n.toNat, h⟩ else none
  else none

/-- The instant moved by `d`, if it stays in the range. -/
def add? (t : Instant) (d : Duration) : Option Instant := ofMicros? (t.micros + d.micros)

/-- The instant moved by `d`, stopped at the end of the range. -/
def shift (t : Instant) (d : Duration) : Instant :=
  match t.add? d with
  | some u => u
  | none => if 0 < d.micros then last else first

/-- The instant moved back by `d`. -/
def back (t : Instant) (d : Duration) : Instant := t.shift ⟨-d.micros⟩

/-- The time from `a` to `b`. -/
def spanTo (a b : Instant) : Duration := ⟨(b.micros : Int) - a.micros⟩

/-! ## Calendar fields -/

def dayNumber (t : Instant) : Nat := t.micros / Duration.dayMicros

def date (t : Instant) : Date := Date.ofDayNumber t.dayNumber

/-- A time of day, to the microsecond. -/
structure Clock where
  hour : Nat
  minute : Nat
  second : Nat
  micro : Nat
  deriving DecidableEq, Repr

def Clock.Valid (c : Clock) : Prop :=
  c.hour ≤ 23 ∧ c.minute ≤ 59 ∧ c.second ≤ 59 ∧ c.micro ≤ 999999

instance (c : Clock) : Decidable c.Valid := inferInstanceAs (Decidable (_ ∧ _))

def Clock.micros (c : Clock) : Nat :=
  ((c.hour * 60 + c.minute) * 60 + c.second) * 1000000 + c.micro

def clock (t : Instant) : Clock :=
  let n := t.micros % Duration.dayMicros
  let s := n / 1000000
  ⟨s / 3600, s / 60 % 60, s % 60, n % 1000000⟩

/-- The instant with the fields, if they are a date and a time of day. -/
def ofFields? (d : Date) (c : Clock) : Option Instant :=
  if d.isValid ∧ c.Valid then ofMicros? (d.dayNumber * Duration.dayMicros + c.micros) else none

/-! ## Seconds since 1970 -/

def epoch : Instant := ⟨719162 * 86400000000, by decide⟩

/-- The instant that many microseconds after the start of 1970. -/
def ofUnixMicros? (n : Int) : Option Instant := ofMicros? (epoch.micros + n)

/-- The start of the second that the instant lies in. -/
def wholeSecond (t : Instant) : Instant :=
  ⟨t.micros / 1000000 * 1000000, by have := t.inRange; omega⟩

/-! ## Whole days -/

/-- The days of a rounded number of seconds, as many as are complete. -/
def completeDays : Binary64 → Nat
  | .finite _ steps => steps / (86400 * Binary64.one)
  | _ => 0

/-- The whole days from `a` to `b`, truncated toward zero. The span is first
rounded to a number of seconds. -/
def wholeDaysBetween (a b : Instant) : Int :=
  let seconds := (a.spanTo b).seconds
  let days : Int := completeDays seconds
  if Binary64.zero.le seconds then days else -days

/-! ## Laws -/

theorem ofMicros?_eq_some {n : Int} {t : Instant} : ofMicros? n = some t ↔ n = t.micros := by
  obtain ⟨m, hm⟩ := t
  constructor
  · intro h
    simp only [ofMicros?] at h
    split at h
    · split at h
      · cases h; simp; omega
      · cases h
    · cases h
  · intro h
    subst h
    simp [ofMicros?, hm]

/-- Within the range the shift is plain addition; outside it is the nearest end. -/
theorem shift_micros (t : Instant) (d : Duration) :
    ((t.shift d).micros : Int) = max 0 (min (t.micros + d.micros) (count - 1)) := by
  have ht := t.inRange
  have hc : (count : Int) = 315537897600000000 := rfl
  cases h : t.add? d with
  | some u =>
    have hu := ofMicros?_eq_some.1 h
    have := u.inRange
    simp only [shift, h]
    omega
  | none =>
    have hn : ∀ u : Instant, (t.micros : Int) + d.micros ≠ u.micros := by
      intro u hu
      simp [add?, ofMicros?_eq_some.2 hu] at h
    simp only [shift, h]
    split
    · by_cases hlt : (t.micros : Int) + d.micros < 315537897600000000
      · exact absurd (by simp; omega) (hn ⟨((t.micros : Int) + d.micros).toNat, by omega⟩)
      · have : (last.micros : Int) = 315537897600000000 - 1 := rfl
        omega
    · by_cases h0 : 0 ≤ (t.micros : Int) + d.micros
      · exact absurd (by simp; omega) (hn ⟨((t.micros : Int) + d.micros).toNat, by omega⟩)
      · have : (first.micros : Int) = 0 := rfl
        omega

end Instant

end MomentInsights
