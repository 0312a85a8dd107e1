-- The Gregorian calendar, extended to the years 1 to 9999. Day 0 is the first
-- of January of year 1, a Monday.

namespace MomentInsights

/-- A date by its parts. -/
structure Date where
  year : Nat
  month : Nat
  day : Nat
  deriving DecidableEq, Repr

namespace Date

-- Sums start at the core library's zero, whatever else is imported.
attribute [local instance (high)] Zero.ofOfNat0

def isLeap (year : Nat) : Bool :=
  year % 4 == 0 && (year % 100 != 0 || year % 400 == 0)

/-- The lengths of the months of a year, January first. -/
def monthLengths (year : Nat) : List Nat :=
  [31, if isLeap year then 29 else 28, 31, 30, 31, 30, 31, 31, 30, 31, 30, 31]

/-- The days before the first of January of the year, for a year from 1 on. -/
def daysBeforeYear (year : Nat) : Nat :=
  let y := year - 1
  365 * y + y / 4 - y / 100 + y / 400

/-- A date of the calendar, in the years 1 to 9999. -/
def Valid (d : Date) : Prop :=
  1 ≤ d.year ∧ d.year ≤ 9999 ∧ 1 ≤ d.day ∧
    ∃ n, (monthLengths d.year)[d.month - 1]? = some n ∧ 1 ≤ d.month ∧ d.day ≤ n

/-- The same test, as a computation. -/
def isValid (d : Date) : Bool :=
  1 ≤ d.year && d.year ≤ 9999 && 1 ≤ d.month && 1 ≤ d.day &&
    match (monthLengths d.year)[d.month - 1]? with
    | some n => d.day ≤ n
    | none => false

theorem isValid_iff (d : Date) : d.isValid = true ↔ d.Valid := by
  unfold isValid Valid
  cases h : (monthLengths d.year)[d.month - 1]? with
  | none => simp
  | some n => simp; omega

/-- The number of the day, counted from day 0. -/
def dayNumber (d : Date) : Nat :=
  daysBeforeYear d.year + ((monthLengths d.year).take (d.month - 1)).sum + (d.day - 1)

/-- The month and the day of the month, from the month lengths and the number
of days before the day. `month` counts the months passed. -/
def monthAndDay : List Nat → Nat → Nat → Nat × Nat
  | [], n, month => (month, n + 1)
  | len :: rest, n, month => if n < len then (month, n + 1) else monthAndDay rest (n - len) (month + 1)

/-- The year of a day and the days of the year before it. Four centuries have
146097 days, the first three of them 36524 each; four years have 1461, the
first three of them 365 each. -/
def yearAndDay (n : Nat) : Nat × Nat :=
  let r := n % 146097
  let centuries := min (r / 36524) 3
  let r := r - centuries * 36524
  let fours := r / 1461
  let r := r % 1461
  let years := min (r / 365) 3
  (n / 146097 * 400 + centuries * 100 + fours * 4 + years + 1, r - years * 365)

/-- The date of the day with the number. -/
def ofDayNumber (n : Nat) : Date :=
  let (year, left) := yearAndDay n
  let (month, day) := monthAndDay (monthLengths year) left 1
  ⟨year, month, day⟩

/-- The number of days in the years 1 to 9999. -/
def dayCount : Nat := 3652059

/-- The day of the week, Monday being 0. -/
def weekday (dayNumber : Nat) : Nat := dayNumber % 7

/-- The day number of the Monday of week 1 of an ISO year, the week with the
year's first Thursday; it may lie in the year before. -/
def isoWeekOneMonday (year : Nat) : Int :=
  let first := daysBeforeYear year
  let w := weekday first
  if w ≤ 3 then (first : Int) - w else (first : Int) - w + 7

/-- An ISO year has 53 weeks when it starts on a Thursday, or on a Wednesday in
a leap year. -/
def isoWeeks (year : Nat) : Nat :=
  let w := weekday (daysBeforeYear year)
  if w = 3 ∨ (w = 2 ∧ isLeap year) then 53 else 52

/-- The date of a day of an ISO week, for a year from 1 on. -/
def ofIsoWeek? (year week day : Nat) : Option Date :=
  if 1 ≤ year ∧ 1 ≤ week ∧ week ≤ isoWeeks year ∧ 1 ≤ day ∧ day ≤ 7 then
    let n := isoWeekOneMonday year + (week - 1) * 7 + (day - 1)
    if 0 ≤ n ∧ n < dayCount then some (ofDayNumber n.toNat) else none
  else none

example : dayNumber ⟨1, 1, 1⟩ = 0 := by decide
example : dayNumber ⟨1970, 1, 1⟩ = 719162 := by decide
example : dayNumber ⟨9999, 12, 31⟩ + 1 = dayCount := by decide
example : ofDayNumber 719162 = ⟨1970, 1, 1⟩ := by decide
example : ofDayNumber 3652058 = ⟨9999, 12, 31⟩ := by decide

end Date

end MomentInsights
