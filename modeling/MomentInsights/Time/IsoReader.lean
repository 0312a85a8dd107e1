-- Reading ISO 8601 text: a calendar date or a week date, in the basic or the
-- extended form, then perhaps one separator of any kind, a time of day and an
-- offset. The hours may be followed by minutes and seconds; a fraction may
-- follow any of them and counts as a fraction of a second.
import MomentInsights.Text.Digits
import MomentInsights.Text.Wide
import MomentInsights.Time.Timestamp

namespace MomentInsights.IsoReader

open Text

/-! ## Dates -/

/-- The number of characters of the date. The fifth and sixth characters tell
the forms apart; a week date may or may not name its day. -/
def dateLength (cs : List Char) : Nat :=
  let n := cs.length
  if n = 7 then 7
  else if cs[4]? = some '-' then
    if cs[5]? = some 'W' then
      if cs[8]? = some '-' then
        if ((cs[10]?).map isDigit).getD false then 8 else 10
      else 8
    else 10
  else if cs[4]? = some 'W' then
    let stop := 7 + ((cs.drop 7).takeWhile isDigit).length
    if stop < 9 then stop else if stop % 2 = 0 then 7 else 8
  else 8

/-- Drops a hyphen, if the date is written with them. -/
def hyphen (extended : Bool) (cs : List Char) : Option (List Char) :=
  if extended then
    match cs with
    | '-' :: r => some r
    | _ => none
  else some cs

/-- The date that all of `cs` writes. A week date without a day is its Monday. -/
def date? (cs : List Char) : Option Date := do
  let (year, r) ← takeDigits 4 cs
  let extended := r.head? = some '-'
  let r ← hyphen extended r
  match r with
  | 'W' :: r =>
    let (week, r) ← takeDigits 2 r
    if r.isEmpty then Date.ofIsoWeek? year week 1
    else
      let r ← hyphen extended r
      let (day, _) ← takeDigits 1 r
      Date.ofIsoWeek? year week day
  | r =>
    let (month, r) ← takeDigits 2 r
    let r ← hyphen extended r
    let (day, _) ← takeDigits 2 r
    let d : Date := ⟨year, month, day⟩
    if d.isValid then some d else none

/-! ## Times of day -/

/-- A reading of a time of day or an offset: the fields, and whether something
follows them. -/
structure ClockReading where
  clock : Instant.Clock
  leftover : Bool

/-- The microseconds of up to six fraction digits. Further digits are dropped;
a character that is no digit must come after the sixth. -/
def fraction? (cs : List Char) : Option (Nat × Bool) := do
  let kept := min cs.length 6
  let (n, r) ← takeDigits kept cs
  let r := r.dropWhile isDigit
  return (n * 10 ^ (6 - kept), match r with | [] => false | c :: _ => c ≠ Char.ofNat 0)

/-- The fields after `done`, with `left` more groups of two digits to come.
`colons` says whether the groups are separated; the first group decides it. One
ASCII character may stand after any group at the end. -/
def groups? : Nat → Option Bool → List Nat → List Char → Option (List Nat × Nat × Bool)
  | 0, _, done, cs => do
    let (micro, leftover) ← fraction? cs
    return (done, micro, leftover)
  | left + 1, colons, done, cs => do
    let (n, r) ← takeDigits 2 cs
    let done := done ++ [n]
    match r with
    | [] => some (done, 0, false)
    | c :: rest =>
      if rest.isEmpty ∧ c.toNat < 128 then return (done, 0, c ≠ Char.ofNat 0)
      let colons := colons.getD (c = ':')
      if colons ∧ c = ':' then groups? left (some colons) done rest
      else if c = '.' ∨ c = ',' then do
        let (micro, leftover) ← fraction? rest
        return (done, micro, leftover)
      else if colons then none
      else groups? left (some colons) done r

/-- The time of day that `cs` writes, with groups left out read as zero. -/
def clock? (cs : List Char) : Option ClockReading := do
  let (fields, micro, leftover) ← groups? 3 none [] cs
  return ⟨⟨fields[0]?.getD 0, fields[1]?.getD 0, fields[2]?.getD 0, micro⟩, leftover⟩

/-- Where an offset starts. -/
def startsOffset (c : Char) : Bool := c = '+' || c = '-' || c = 'Z'

/-- The offset that `cs` writes, less than a day long. An offset below one
second is none at all. A NUL behind a `Z` ends the text. -/
def offset? : List Char → Option Duration
  | 'Z' :: cs => if cs.headD (Char.ofNat 0) = Char.ofNat 0 then some Duration.zero else none
  | sign :: cs => do
    let reading ← clock? cs
    if reading.leftover then none
    let micros := reading.clock.micros
    if micros < 1000000 then some Duration.zero
    else if Duration.dayMicros ≤ micros then none
    else some ⟨if sign = '-' then -(micros : Int) else micros⟩
  | [] => none

/-- A time of day and perhaps an offset. What stands between the two besides
the fields is passed over. -/
def time? (cs : List Char) : Option (Instant.Clock × Option Duration) := do
  let (local_, zone) := cs.span (fun c => !startsOffset c)
  let reading ← clock? local_
  match zone with
  | [] => if reading.leftover then none else some (reading.clock, none)
  | zone => do
    let offset ← offset? zone
    return (reading.clock, some offset)

/-- The timestamp that the text writes; a date alone is its midnight. -/
def read? (s : String) : Option Timestamp := do
  let cs := s.toList
  if cs.length < 7 then none
  let n := dateLength cs
  let d ← date? (cs.take n)
  match cs.drop n with
  | [] => return ⟨← Instant.ofFields? d ⟨0, 0, 0, 0⟩, none⟩
  | _ :: rest =>
    let (clock, offset) ← time? rest
    return ⟨← Instant.ofFields? d clock, offset⟩

/-! ## Text in code points -/

/-- The places, counted from the start, where a date may end. -/
def separatorPlaces : List Nat := [7, 8, 10]

/-- The timestamp that the text writes. The separator may be half of a
surrogate pair; no other half is read. -/
def readWide? (w : WideText) : Option Timestamp := do
  let points := match separatorPlaces.find? fun i => w.points[i]?.any Point.isHalf with
    | some i => w.points.set i (.char 'T')
    | none => w.points
  read? (← WideText.string? ⟨points⟩)

end MomentInsights.IsoReader
