-- Fields that hold a time: a date alone or with a time of day, written with
-- hyphens and colons, or a number of seconds or milliseconds since 1970.
import MomentInsights.Json.Value
import MomentInsights.Service.Fault
import MomentInsights.Service.Field.Number
import MomentInsights.Text.Digits
import MomentInsights.Time.Iso

namespace MomentInsights.Service.Field

open Text

/-! ## Dates and times of day -/

/-- Two digits at the front. -/
def pair? (cs : List Char) : Option (Nat × List Char) := takeDigits 2 cs

/-- The date at the front, in ten characters, and the rest. The year may be 0. -/
def dateFront (s : String) : Except TimeFlaw (Date × List Char) := do
  if s.utf8ByteSize < 10 then throw .tooShort
  let some (year, r) := takeDigits 4 s.toList | throw .badYear
  let '-' :: r := r | throw .badSeparator
  let some (month, r) := pair? r | throw .badMonth
  let '-' :: r := r | throw .badSeparator
  let some (day, r) := pair? r | throw .badDay
  let some most := (0 :: Date.monthLengths year)[month]? | throw .noSuchMonth
  if month = 0 then throw .noSuchMonth
  if day = 0 ∨ most < day then throw .noSuchDay
  return (⟨year, month, day⟩, r)

/-- The microseconds of a fraction of a second, and the rest. Digits after the
sixth are dropped. -/
def fraction? (cs : List Char) : Option (Nat × List Char) :=
  let (ds, rest) := spanDigits cs
  let kept := ds.take 6
  if ds.isEmpty then none else some (digitsValue kept * 10 ^ (6 - kept.length), rest)

/-- The seconds behind the minutes, if there are any. -/
def seconds? (cs : List Char) : Option (Nat × Nat × List Char) :=
  match cs with
  | ':' :: r => do
    let (second, r) ← pair? r
    match r with
    | c :: rest =>
      if c = '.' ∨ c = ',' then
        let (micro, rest) ← fraction? rest
        return (second, micro, rest)
      else return (second, 0, r)
    | [] => return (second, 0, [])
  | r => some (0, 0, r)

/-- The time of day at the front, and the rest. -/
def clockFront? (cs : List Char) : Option (Instant.Clock × List Char) := do
  let (hour, r) ← pair? cs
  let ':' :: r := r | none
  let (minute, r) ← pair? r
  let (second, micro, r) ← seconds? r
  let clock : Instant.Clock := ⟨hour, minute, second, micro⟩
  if clock.Valid then some (clock, r) else none

/-- The sign of an offset; the minus sign may be the hyphen or U+2212. -/
def sign? (c : Char) : Option Int :=
  if c = '+' then some 1
  else if c = '-' ∨ c.toNat = 0x2212 then some (-1)
  else none

/-- The offset that all of `cs` writes: none at all, `Z`, or hours and minutes
that are less than a day. -/
def offset? : List Char → Option (Option Duration)
  | [] => some none
  | [c] => if c = 'Z' ∨ c = 'z' then some (some Duration.zero) else none
  | c :: cs => do
    let sign ← sign? c
    let (hours, r) ← pair? cs
    let r := match r with
      | ':' :: r => r
      | r => r
    let (minutes, r) ← pair? r
    if 23 < hours ∨ 59 < minutes ∨ !r.isEmpty then none
    else some (some ⟨sign * ((hours * 60 + minutes) * 60000000 : Nat)⟩)

/-- The date, the time of day and the offset that the text writes. -/
def dateAndClock? (s : String) : Option (Date × Instant.Clock × Option Duration) :=
  match dateFront s with
  | .ok (date, c :: r) =>
    if ['T', 't', ' ', '_'].contains c then do
      let (clock, r) ← clockFront? r
      return (date, clock, ← offset? r)
    else none
  | _ => none

/-- The timestamp with the fields; there is no year 0. -/
def ofFields (d : Date) (c : Instant.Clock) (offset : Option Duration) : Except Fault Timestamp :=
  match Instant.ofFields? d c with
  | some t => .ok ⟨t, offset⟩
  | none => .error (.badTime .yearZero)

/-! ## Numbers since 1970 -/

/-- The largest number that counts seconds; larger ones count milliseconds. -/
def mostSeconds : Nat := 20000000000

/-- The seconds of the start of year 0, and those of the last second of 9999. -/
def unixBounds : Int × Int := (-62167219200, 253402300799)

/-- The instant of a number of microseconds. The year before year 1 can be
reached, but holds no instant. -/
def ofUnixMicros (n : Int) : Except TimeFlaw Instant :=
  let seconds := n.fdiv 1000000
  if seconds < unixBounds.1 then .error .tooEarly
  else if unixBounds.2 < seconds then .error .tooLate
  else
    match Instant.ofUnixMicros? n with
    | some t => .ok t
    | none => .error .yearZero

/-- The instant of a binary number. Its fraction is scaled to microseconds by
one rounded product, and a half of one goes away from zero. -/
def ofUnixReal (x : Binary64) : Except TimeFlaw Instant :=
  match x with
  | .nan => .error .notANumber
  | .infinite negative => .error (if negative then .tooEarly else .tooLate)
  | x =>
    let unit := if x.abs.le (Binary64.ofInt mostSeconds) then 1000000 else 1000
    let micros := (x.fraction * Binary64.ofInt unit).roundHalfAway?
    ofUnixMicros ((x.truncate?).getD 0 * unit + micros.getD 0)

/-- The instant of a number of seconds or milliseconds. -/
def ofUnix : Number → Except TimeFlaw Instant
  | .whole n => ofUnixMicros (n * if n.natAbs ≤ mostSeconds then 1000000 else 1000)
  | .real x => ofUnixReal x

/-- The number that `cs` writes: a sign and digits, and perhaps a point with
what a decimal number has behind it. The digits fit 64 bits. -/
def textNumber? (cs : List Char) : Option Number :=
  let (negative, unsigned) := match cs with
    | '-' :: cs => (true, cs)
    | '+' :: cs => (false, cs)
    | cs => (false, cs)
  let (ds, rest) := spanDigits unsigned
  let n : Int := if negative then -(digitsValue ds : Int) else digitsValue ds
  if fitsWord n then
    match rest with
    | [] => if ds.isEmpty then none else some (.whole n)
    | c :: _ => if c = '.' then Number.real <$> decimal? cs else none
  else none

/-! ## Fields -/

/-- The text as a date alone, at midnight. What the text writes instead of a
date decides the fault: `flaw`, if it writes a whole number that has it. -/
def dateOfText (s : String) (flaw : Option TimeFlaw) : Except Fault Timestamp :=
  let found : Except TimeFlaw Date := do
    let (d, rest) ← dateFront s
    if rest.isEmpty then return d else throw .leftover
  match found with
  | .ok d => ofFields d ⟨0, 0, 0, 0⟩ none
  | .error e => .error (.badDate (flaw.getD e))

/-- The timestamp of the number in the text `s`. A number past either end may
still be a date. -/
def timeOfNumber (s : String) (n : Number) : Except Fault Timestamp :=
  match ofUnix n, n with
  | .ok t, _ => .ok (Timestamp.ofInstant t)
  | .error .yearZero, _ => .error (.badTime .yearZero)
  | .error flaw, .whole _ => dateOfText s (some flaw)
  | .error _, .real _ => dateOfText s none

def timeOfText (s : String) : Except Fault Timestamp :=
  match dateAndClock? s with
  | some (d, c, offset) => ofFields d c offset
  | none =>
    match textNumber? s.toList with
    | some n => timeOfNumber s n
    | none => dateOfText s none

/-- A time of any form. A whole number past every binary value is none. -/
def time : Json → Except Fault Timestamp
  | .str s => timeOfText s
  | .num n =>
    if isPastBinary n then .error .notATime
    else
      match ofUnix n with
      | .ok t => .ok (Timestamp.ofInstant t)
      | .error flaw => .error (.badTime flaw)
  | .wide _ => .error .notUnicode
  | _ => .error .notATime
where
  isPastBinary : Number → Bool
    | .whole n => !(Binary64.ofInt n).isFinite
    | .real _ => false

/-- A time that callers may ask about. -/
def supportedTime (j : Json) : Except Fault Instant := do
  let t ← time j
  match t.supported with
  | .ok t => return t
  | .error f => throw (.unsupported f)

end MomentInsights.Service.Field
