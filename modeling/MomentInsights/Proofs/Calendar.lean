-- The calendar is a bijection where instants need it: each day number has a date
-- of the calendar, and the date gives the number back.
import MomentInsights.Time.Instant

namespace MomentInsights

namespace Date

-- Sums start at the core library's zero, whatever else is imported.
attribute [local instance (high)] Zero.ofOfNat0

/-! ## Years -/

/-- The days of a year. -/
def yearLength (year : Nat) : Nat := if isLeap year then 366 else 365

theorem sum_monthLengths (year : Nat) : (monthLengths year).sum = yearLength year := by
  cases h : isLeap year <;> simp [monthLengths, yearLength, h]

theorem isLeap_iff (year : Nat) :
    isLeap year = true ↔ year % 4 = 0 ∧ (year % 100 ≠ 0 ∨ year % 400 = 0) := by
  simp [isLeap]

/-- The days before the year with the given count of whole cycles before it. -/
theorem daysBeforeYear_cycles {q c f y : Nat} (hc : c ≤ 3) (hf : f ≤ 24) (hy : y ≤ 3) :
    daysBeforeYear (q * 400 + c * 100 + f * 4 + y + 1) = q * 146097 + c * 36524 + f * 1461 + y * 365 := by
  have h4 : (q * 400 + c * 100 + f * 4 + y) / 4 = q * 100 + c * 25 + f := by omega
  have h100 : (q * 400 + c * 100 + f * 4 + y) / 100 = q * 4 + c := by omega
  have h400 : (q * 400 + c * 100 + f * 4 + y) / 400 = q := by omega
  simp only [daysBeforeYear, Nat.add_sub_cancel, h4, h100, h400]
  omega

/-- A year is a leap year when it ends four years, unless it ends a century
that does not end a cycle of 400 years. -/
theorem isLeap_cycles {q c f y : Nat} (hc : c ≤ 3) (hf : f ≤ 24) (hy : y ≤ 3) :
    isLeap (q * 400 + c * 100 + f * 4 + y + 1) = true ↔ y = 3 ∧ (f < 24 ∨ c = 3) := by
  rw [isLeap_iff]
  omega

/-- The cycles that a day has passed. -/
theorem yearAndDay_cycles (n : Nat) :
    ∃ q c f y left, yearAndDay n = (q * 400 + c * 100 + f * 4 + y + 1, left) ∧
      c ≤ 3 ∧ f ≤ 24 ∧ y ≤ 3 ∧ q * 146097 + c * 36524 + f * 1461 + y * 365 + left = n ∧
      left ≤ 365 ∧ (left = 365 → y = 3 ∧ (f < 24 ∨ c = 3)) := by
  refine ⟨_, _, _, _, _, rfl, ?_⟩
  omega

/-- The year of a day starts on or before it, and the day is one of its days. -/
theorem yearAndDay_spec (n : Nat) :
    daysBeforeYear (yearAndDay n).1 + (yearAndDay n).2 = n ∧
      (yearAndDay n).2 < yearLength (yearAndDay n).1 := by
  obtain ⟨q, c, f, y, left, heq, hc, hf, hy, hn, hleft, hlast⟩ := yearAndDay_cycles n
  rw [heq]
  have hleap := isLeap_cycles (q := q) hc hf hy
  simp only [daysBeforeYear_cycles hc hf hy, yearLength]
  refine ⟨hn, ?_⟩
  by_cases h : left = 365
  · rw [if_pos (hleap.2 (hlast h))]
    omega
  · split <;> omega

theorem one_le_year (n : Nat) : 1 ≤ (yearAndDay n).1 := by simp [yearAndDay]

theorem year_le {n : Nat} (h : n < dayCount) : (yearAndDay n).1 ≤ 9999 := by
  simp only [dayCount] at h
  simp only [yearAndDay]
  omega

/-! ## Months -/

/-- The months before the one found and the days in it make up the days. -/
theorem monthAndDay_spec (lengths : List Nat) (n passed : Nat) (h : n < lengths.sum) :
    ∃ i len, lengths[i]? = some len ∧ (monthAndDay lengths n passed).1 = passed + i ∧
      1 ≤ (monthAndDay lengths n passed).2 ∧ (monthAndDay lengths n passed).2 ≤ len ∧
      (lengths.take i).sum + ((monthAndDay lengths n passed).2 - 1) = n := by
  induction lengths generalizing n passed with
  | nil => simp at h
  | cons len rest ih =>
    simp only [monthAndDay]
    split
    · exact ⟨0, len, by simp; omega⟩
    · rw [List.sum_cons] at h
      obtain ⟨i, len', hi, hmonth, hday, hle, hsum⟩ := ih (n - len) (passed + 1) (by omega)
      refine ⟨i + 1, len', by simpa using hi, by omega, hday, hle, ?_⟩
      rw [List.take_succ_cons, List.sum_cons]
      omega

/-! ## Dates -/

/-- The date of a day is in the calendar, and counts back to the day. -/
theorem ofDayNumber_spec {n : Nat} (h : n < dayCount) :
    (ofDayNumber n).Valid ∧ (ofDayNumber n).dayNumber = n := by
  obtain ⟨hday, hlt⟩ := yearAndDay_spec n
  have hone := one_le_year n
  have hyear := year_le h
  rw [← sum_monthLengths] at hlt
  obtain ⟨i, len, hi, hmonth, hpos, hle, hsum⟩ := monthAndDay_spec _ _ 1 hlt
  simp only [ofDayNumber, Valid, dayNumber, hmonth]
  rw [Nat.add_sub_cancel_left]
  exact ⟨⟨hone, hyear, hpos, len, hi, by omega, hle⟩, by omega⟩

theorem isValid_ofDayNumber {n : Nat} (h : n < dayCount) : (ofDayNumber n).isValid = true :=
  (isValid_iff _).2 (ofDayNumber_spec h).1

theorem dayNumber_ofDayNumber {n : Nat} (h : n < dayCount) : (ofDayNumber n).dayNumber = n :=
  (ofDayNumber_spec h).2

/-- The months and the days of a date have at most two digits. -/
theorem Valid.month_le {d : Date} (h : d.Valid) : d.month ≤ 12 := by
  obtain ⟨-, -, -, len, hlen, -, -⟩ := h
  have hlt := (List.getElem?_eq_some_iff.1 hlen).1
  simp [monthLengths] at hlt
  omega

theorem Valid.day_le {d : Date} (h : d.Valid) : d.day ≤ 31 := by
  obtain ⟨-, -, -, len, hlen, -, hle⟩ := h
  have hmem := List.mem_of_getElem? hlen
  have hbound : ∀ m ∈ monthLengths d.year, m ≤ 31 := by
    cases hleap : isLeap d.year <;> simp [monthLengths, hleap]
  have := hbound len hmem
  omega

end Date

namespace Instant

theorem dayNumber_lt (t : Instant) : t.dayNumber < Date.dayCount := by
  have := t.inRange
  simp only [dayNumber, Duration.dayMicros, Date.dayCount]
  omega

theorem clock_valid (t : Instant) : t.clock.Valid := by
  simp only [clock, Clock.Valid, Duration.dayMicros]
  omega

theorem clock_micros (t : Instant) : t.clock.micros = t.micros % Duration.dayMicros := by
  simp only [clock, Clock.micros, Duration.dayMicros]
  omega

/-- The fields of an instant are those of no other. -/
theorem ofFields?_date_clock (t : Instant) : ofFields? t.date t.clock = some t := by
  have hdate : t.date.isValid = true := Date.isValid_ofDayNumber t.dayNumber_lt
  rw [ofFields?, if_pos ⟨hdate, t.clock_valid⟩, ofMicros?_eq_some, date,
    Date.dayNumber_ofDayNumber t.dayNumber_lt, clock_micros, dayNumber]
  have := Nat.div_add_mod' t.micros Duration.dayMicros
  omega

end Instant

end MomentInsights
