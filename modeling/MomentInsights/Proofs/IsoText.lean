-- The ISO 8601 text of an instant reads back as the instant in UTC, whatever
-- its fields are.
import Mathlib.Data.List.TakeDrop
import MomentInsights.Proofs.Calendar
import MomentInsights.Proofs.Digits
import MomentInsights.Time.Iso
import MomentInsights.Time.IsoReader

namespace MomentInsights

open Text

/-! ## The characters of the text -/

def Date.chars (d : Date) : List Char :=
  digitsOf 10 4 d.year ++ '-' :: (digitsOf 10 2 d.month ++ '-' :: digitsOf 10 2 d.day)

theorem Date.length_chars (d : Date) : d.chars.length = 10 := by simp [Date.chars, digitsOf]

theorem Date.Valid.text_toList {d : Date} (h : d.Valid) : d.text.toList = d.chars := by
  have hyear : d.year < 10 ^ (4 : Nat) := by have := h.2.1; omega
  have hmonth : d.month < 10 ^ (2 : Nat) := by have := h.month_le; omega
  have hday : d.day < 10 ^ (2 : Nat) := by have := h.day_le; omega
  have htext : d.text = padded 4 d.year ++ "-" ++ padded 2 d.month ++ "-" ++ padded 2 d.day := rfl
  rw [htext]
  simp [Date.chars, padded_toList _ hyear, padded_toList _ hmonth, padded_toList _ hday]

namespace Instant

/-- What stands behind the seconds. -/
def Clock.fractionChars (c : Clock) : List Char :=
  if c.micro = 0 then [] else '.' :: digitsOf 10 6 c.micro

def Clock.chars (c : Clock) : List Char :=
  digitsOf 10 2 c.hour ++ ':' :: (digitsOf 10 2 c.minute ++ ':' ::
    (digitsOf 10 2 c.second ++ c.fractionChars))

theorem Clock.Valid.text_toList {c : Clock} (h : c.Valid) : c.text.toList = c.chars := by
  obtain ⟨hhour, hminute, hsecond, hmicro⟩ := h
  have h1 : c.hour < 10 ^ (2 : Nat) := by omega
  have h2 : c.minute < 10 ^ (2 : Nat) := by omega
  have h3 : c.second < 10 ^ (2 : Nat) := by omega
  have h4 : c.micro < 10 ^ (6 : Nat) := by omega
  have htext : c.text =
      if c.micro = 0 then padded 2 c.hour ++ ":" ++ padded 2 c.minute ++ ":" ++ padded 2 c.second
      else padded 2 c.hour ++ ":" ++ padded 2 c.minute ++ ":" ++ padded 2 c.second ++ "." ++
        padded 6 c.micro := rfl
  rw [htext, Clock.chars, Clock.fractionChars]
  split <;> simp [padded_toList _ h1, padded_toList _ h2, padded_toList _ h3, padded_toList _ h4]

theorem text_toList (t : Instant) :
    t.text.toList = t.date.chars ++ 'T' :: (t.clock.chars ++ "+00:00".toList) := by
  have hdate : t.date.text.toList = t.date.chars :=
    (Date.ofDayNumber_spec t.dayNumber_lt).1.text_toList
  have hclock : t.clock.text.toList = t.clock.chars := t.clock_valid.text_toList
  have htext : t.text = t.date.text ++ "T" ++ t.clock.text ++ "+00:00" := rfl
  rw [htext]
  simp [hdate, hclock]

end Instant

namespace IsoReader

/-- What follows a digit is read as no letter. -/
theorem ne_of_mem_digitsOf {width n : Nat} {c x : Char} (hc : c ∈ digitsOf 10 width n)
    (hx : isDigit x = false) : c ≠ x := by
  rintro rfl
  rw [isDigit_of_mem_digitsOf hc] at hx
  cases hx

theorem digitChar_ne {n : Nat} {x : Char} (hx : isDigit x = false) : Nat.digitChar (n % 10) ≠ x := by
  have h : Nat.digitChar (n % 10) ∈ digitsOf 10 1 n := by simp [digitsOf]
  exact ne_of_mem_digitsOf h hx

/-! ## The date -/

theorem date?_chars {d : Date} (h : d.Valid) : date? d.chars = some d := by
  have hyear : d.year % 10 ^ (4 : Nat) = d.year := Nat.mod_eq_of_lt (by have := h.2.1; omega)
  have hmonth : d.month % 10 ^ (2 : Nat) = d.month := Nat.mod_eq_of_lt (by have := h.month_le; omega)
  have hday : d.day % 10 ^ (2 : Nat) = d.day := Nat.mod_eq_of_lt (by have := h.day_le; omega)
  have hmiddle (rest : List Char) : takeDigits 2 (digitsOf 10 2 d.month ++ rest) =
      some (d.month, rest) := by
    rw [takeDigits_digitsOf, hmonth]
  have hlast : takeDigits 2 (digitsOf 10 2 d.day) = some (d.day, []) := by
    have := takeDigits_digitsOf 2 d.day []
    rwa [List.append_nil, hday] at this
  unfold date? Date.chars
  simp only [takeDigits_digitsOf, hyear, Option.bind_eq_bind, Option.bind_some, List.head?_cons,
    decide_true, hyphen, if_true]
  split
  · rename_i heq
    -- A month starts with a digit, so the date is not one of a week.
    rw [digitsOf, List.cons_append, List.cons.injEq] at heq
    exact absurd heq.1 (digitChar_ne (by decide))
  · simp [hmiddle, hlast, (Date.isValid_iff d).2 h]

/-- The date takes the first ten characters. -/
theorem dateLength_chars (d : Date) (rest : List Char) (h : 7 < (d.chars ++ rest).length) :
    dateLength (d.chars ++ rest) = 10 := by
  have h4 : (d.chars ++ rest)[4]? = some '-' := by simp [Date.chars, digitsOf]
  have h5 : (d.chars ++ rest)[5]? ≠ some 'W' := by
    have : (d.chars ++ rest)[5]? = some (Nat.digitChar (d.month / 10 ^ (1 : Nat) % 10)) := by
      simp [Date.chars, digitsOf]
    rw [this, ne_eq, Option.some.injEq]
    exact digitChar_ne (by decide)
  simp only [dateLength, h4, h5, if_true, if_false]
  rw [if_neg (by omega)]

/-! ## The time of day -/

theorem fraction?_digitsOf (n : Nat) :
    fraction? (digitsOf 10 6 n) = some (n % 10 ^ (6 : Nat), false) := by
  have h := takeDigits_digitsOf 6 n []
  rw [List.append_nil] at h
  have hlen : min (digitsOf 10 6 n).length 6 = 6 := by simp [digitsOf]
  simp [fraction?, hlen, h]

/-- A group in front of a colon; the groups after it stay separated by colons. -/
theorem groups?_colon {colons : Option Bool} (h : colons ≠ some false) (left n : Nat)
    (done : List Nat) {rest : List Char} (hrest : rest ≠ []) :
    groups? (left + 1) colons done (digitsOf 10 2 n ++ ':' :: rest) =
      groups? left (some true) (done ++ [n % 10 ^ (2 : Nat)]) rest := by
  have hcolons : colons.getD true = true := by
    cases colons with
    | none => rfl
    | some b => cases b <;> simp_all
  simp [groups?, takeDigits_digitsOf, hrest, hcolons]

/-- The last group, and the fraction behind it. -/
theorem groups?_last (done : List Nat) (second micro : Nat) (hmicro : micro < 10 ^ (6 : Nat)) :
    groups? 1 (some true) done
        (digitsOf 10 2 second ++ if micro = 0 then [] else '.' :: digitsOf 10 6 micro) =
      some (done ++ [second % 10 ^ (2 : Nat)], micro, false) := by
  unfold groups?
  by_cases h : micro = 0
  · have hnone := takeDigits_digitsOf 2 second []
    rw [List.append_nil] at hnone
    simp [h, hnone]
  · have hne : digitsOf 10 6 micro ≠ [] := by simp [digitsOf]
    have hfrac : micro % 1000000 = micro := Nat.mod_eq_of_lt hmicro
    simp [h, takeDigits_digitsOf, hne, fraction?_digitsOf, hfrac]

theorem clock?_chars {c : Instant.Clock} (h : c.Valid) : clock? c.chars = some ⟨c, false⟩ := by
  obtain ⟨hhour, hminute, hsecond, hmicro⟩ := h
  have h1 : c.hour % 10 ^ (2 : Nat) = c.hour := Nat.mod_eq_of_lt (by omega)
  have h2 : c.minute % 10 ^ (2 : Nat) = c.minute := Nat.mod_eq_of_lt (by omega)
  have h3 : c.second % 10 ^ (2 : Nat) = c.second := Nat.mod_eq_of_lt (by omega)
  have hgroups : groups? 3 none [] c.chars =
      some ([c.hour, c.minute, c.second], c.micro, false) := by
    unfold Instant.Clock.chars Instant.Clock.fractionChars
    rw [groups?_colon (by simp) _ _ _ (by simp [digitsOf]),
      groups?_colon (by simp) _ _ _ (by simp [digitsOf]), groups?_last _ _ _ (by omega), h1, h2, h3]
    rfl
  simp [clock?, hgroups]

/-- No sign and no `Z` stands in a time of day. -/
theorem not_startsOffset_of_mem_chars {c : Instant.Clock} {x : Char} (hx : x ∈ c.chars) :
    (!startsOffset x) = true := by
  have hdigit : ∀ {width n : Nat}, x ∈ digitsOf 10 width n → (!startsOffset x) = true := by
    intro width n h
    have hne : ∀ y, isDigit y = false → x ≠ y := fun y => ne_of_mem_digitsOf h
    simp [startsOffset, hne '+' (by decide), hne '-' (by decide), hne 'Z' (by decide)]
  simp only [Instant.Clock.chars, Instant.Clock.fractionChars, List.mem_append,
    List.mem_cons] at hx
  rcases hx with hx | rfl | hx | rfl | hx | hx
  · exact hdigit hx
  · decide
  · exact hdigit hx
  · decide
  · exact hdigit hx
  · split at hx
    · cases hx
    · rcases List.mem_cons.1 hx with rfl | hx
      · decide
      · exact hdigit hx

theorem offset?_utc : offset? "+00:00".toList = some Duration.zero := by decide

theorem time?_chars {c : Instant.Clock} (h : c.Valid) :
    time? (c.chars ++ "+00:00".toList) = some (c, some Duration.zero) := by
  have hspan : (c.chars ++ "+00:00".toList).span (fun x => !startsOffset x) =
      (c.chars, "+00:00".toList) := by
    rw [List.span_eq_takeWhile_dropWhile,
      List.takeWhile_append_of_pos (fun _ => not_startsOffset_of_mem_chars),
      List.dropWhile_append_of_pos (fun _ => not_startsOffset_of_mem_chars)]
    simp [startsOffset]
  unfold time?
  rw [hspan]
  simp only [clock?_chars h, Option.bind_eq_bind, Option.bind_some]
  have hutc : offset? ['+', '0', '0', ':', '0', '0'] = some Duration.zero := offset?_utc
  simp [hutc]

/-! ## The whole text -/

theorem read?_text (t : Instant) : read? t.text = some (Timestamp.ofInstant t) := by
  have hdate : t.date.Valid := (Date.ofDayNumber_spec t.dayNumber_lt).1
  have hlen := t.date.length_chars
  have hlong : 7 < (t.date.chars ++ 'T' :: (t.clock.chars ++ "+00:00".toList)).length := by
    rw [List.length_append, hlen]
    omega
  unfold read?
  rw [Instant.text_toList]
  simp only [dateLength_chars _ _ hlong, List.take_left' hlen, List.drop_left' hlen,
    date?_chars hdate, time?_chars t.clock_valid, Option.bind_eq_bind, Option.bind_some,
    Instant.ofFields?_date_clock, if_neg (Nat.not_lt.2 (Nat.le_of_lt hlong))]
  rfl

/-- Text without halves of surrogate pairs is read as it stands. -/
theorem readWide?_ofString (s : String) : readWide? (WideText.ofString s) = read? s := by
  have hnone : separatorPlaces.find?
      (fun i => ((WideText.ofString s).points[i]?).any Point.isHalf) = none := by
    rw [List.find?_eq_none]
    intro i _
    rw [WideText.ofString, List.getElem?_map]
    cases s.toList[i]? <;> simp [Point.isHalf, Point.char?]
  have hstring := WideText.string?_ofString s
  unfold readWide?
  rw [hnone]
  simp only [hstring, Option.bind_eq_bind, Option.bind_some]

end IsoReader

end MomentInsights
