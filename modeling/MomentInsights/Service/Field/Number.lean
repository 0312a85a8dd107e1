-- Fields that hold numbers or truth values. Each may also be written as text.
import MomentInsights.Json.Value
import MomentInsights.Number.Binary64
import MomentInsights.Service.Fault
import MomentInsights.Text.Characters
import MomentInsights.Text.Digits

namespace MomentInsights.Service.Field

open Text

/-! ## Numbers in text -/

/-- The digits without single underscores between them; none when there is no
underscore, or one at an end or beside another. -/
def withoutUnderscores (cs : List Char) : Option (List Char) :=
  let lone := (cs.zip (cs.drop 1)).all fun (a, b) => a != '_' || b != '_'
  if cs.contains '_' && lone && cs.head? != some '_' && cs.getLast? != some '_' then
    some (cs.filter (· != '_'))
  else none

/-- A whole number in plain digits: perhaps a minus sign, and no zero in front
of other digits. -/
def plainWhole? (cs : List Char) : Option Int :=
  let (negative, ds) := match cs with
    | '-' :: ds => (true, ds)
    | ds => (false, ds)
  let plain := match ds with
    | [] => false
    | '0' :: rest => rest.isEmpty
    | ds => ds.all isDigit
  if plain then some (if negative then -(digitsValue ds : Int) else digitsValue ds) else none

/-- The text without zeros in front, `last` being the zero or underscore before
the rest. One zero stays where no other digit follows it. -/
def afterZeros (last : Char) : List Char → Option (List Char)
  | [] => some [last]
  | c :: cs =>
    if c = '0' ∨ c = '_' then afterZeros c cs
    else if c = '-' ∨ isDigit c then some (c :: cs)
    else if c = '.' then some (last :: c :: cs)
    else none

/-- The text without zeros in front. It starts with a digit or a minus sign. -/
def withoutZeros? : List Char → Option (List Char)
  | [] => none
  | c :: cs =>
    if c = '0' then afterZeros c cs
    else if c = '-' ∨ isDigit c then some (c :: cs)
    else none

/-- The text without a point and the zeros behind it. A point with nothing
behind it stays. -/
def withoutFraction (cs : List Char) : List Char :=
  let (whole, fraction) := cs.span (· != '.')
  let places := fraction.drop 1
  if !places.isEmpty && places.all (· = '0') then whole else cs

/-- The text without zeros in front, a fraction of zeros, and underscores. -/
def cleanDigits? (cs : List Char) : Option (List Char) := do
  let bare := withoutFraction (← withoutZeros? cs)
  return (withoutUnderscores bare).getD bare

/-- The text with its digits cleaned. A plus sign is dropped, a minus sign stays
in front; a plus sign is not followed by another sign. -/
def cleanWhole? : List Char → Option (List Char)
  | '+' :: '-' :: _ => none
  | '+' :: cs => cleanDigits? cs
  | '-' :: cs => ('-' :: ·) <$> cleanDigits? cs
  | cs => cleanDigits? cs

/-- The most characters of a whole number in text. -/
def maxWholeLength : Nat := 4300

def wholeOfText (s : String) : Except Fault Int :=
  let cs := (trimBy isWhiteSpace s).toList
  let found := match plainWhole? cs with
    | some n => some (cs, n)
    | none => do
      let ds ← cleanWhole? cs
      return (ds, ← plainWhole? ds)
  match found with
  | none => .error .unreadableWhole
  | some (ds, n) => if maxWholeLength < ds.length then .error .tooManyDigits else .ok n

/-- The words for values that are no finite number. -/
def wordValue? (negative : Bool) (cs : List Char) : Option Binary64 :=
  let word := String.ofList (cs.map Char.toLower)
  if word = "inf" ∨ word = "infinity" then some (.infinite negative)
  else if word = "nan" then some .nan
  else none

/-- The exponent, if `cs` writes one and nothing else; no text is none. -/
def exponent? : List Char → Option Int
  | [] => some 0
  | e :: cs =>
    if e = 'e' ∨ e = 'E' then
      let (negative, ds) := match cs with
        | '-' :: ds => (true, ds)
        | '+' :: ds => (false, ds)
        | ds => (false, ds)
      if ds.isEmpty ∨ !ds.all isDigit then none
      else some (if negative then -(digitsValue ds : Int) else digitsValue ds)
    else none

/-- A decimal number: a sign, digits with perhaps a point among them, and an
exponent, or a word. -/
def decimal? (cs : List Char) : Option Binary64 := do
  let (negative, cs) := match cs with
    | '-' :: cs => (true, cs)
    | '+' :: cs => (false, cs)
    | cs => (false, cs)
  match wordValue? negative cs with
  | some x => some x
  | none =>
    let (whole, rest) := spanDigits cs
    let (places, rest) := match rest with
      | '.' :: rest => spanDigits rest
      | rest => ([], rest)
    if (whole ++ places).isEmpty then none
    else
      let e ← exponent? rest
      return Binary64.ofDecimal negative (digitsValue (whole ++ places)) (e - places.length)

def realOfText (s : String) : Except Fault Binary64 :=
  match decimal? (trimBy isWhiteSpace s).toList with
  | some x => .ok x
  | none =>
    match (withoutUnderscores s.toList).bind decimal? with
    | some x => .ok x
    | none => .error .unreadableNumber

/-! ## Fields -/

/-- The whole number that a value is, if it has no fraction and fits 64 bits. -/
def wholeOfReal : Binary64 → Except Fault Int
  | .finite negative steps =>
    let n := Binary64.signedSteps negative (steps / Binary64.one)
    if steps % Binary64.one ≠ 0 then .error .hasFraction
    else if n ≤ -9223372036854775808 ∨ 9223372036854775808 ≤ n then .error .tooManyDigits
    else .ok n
  | _ => .error .notFinite

/-- A whole number. -/
def whole : Json → Except Fault Int
  | .num (.whole n) => .ok n
  | .num (.real x) => wholeOfReal x
  | .bool b => .ok (if b then 1 else 0)
  | .str s => wholeOfText s
  | .wide _ => .error .notUnicode
  | _ => .error .notWhole

/-- A whole number between two bounds. -/
def wholeWithin (low high : Int) (j : Json) : Except Fault Int := do
  let n ← whole j
  if high < n then throw (.above high)
  if n < low then throw (.below low)
  return n

/-- A whole number above one bound and not above the other. -/
def wholeAbove (low high : Int) (j : Json) : Except Fault Int := do
  let n ← whole j
  if high < n then throw (.above high)
  if n ≤ low then throw (.notAbove low)
  return n

/-- A number of any kind. A whole number past every binary value is none. -/
def real : Json → Except Fault Binary64
  | .num (.real x) => .ok x
  | .num (.whole n) =>
    match Binary64.ofInt n with
    | .infinite _ => .error .notANumber
    | x => .ok x
  | .bool b => .ok (Binary64.ofInt (if b then 1 else 0))
  | .str s => realOfText s
  | .wide _ => .error .notUnicode
  | _ => .error .notANumber

/-- A finite number between two bounds. -/
def realWithin (low high : Int) (j : Json) : Except Fault Binary64 := do
  let x ← real j
  if !x.isFinite then throw .notFinite
  if (Binary64.ofInt high).lt x then throw (.above high)
  if x.lt (Binary64.ofInt low) then throw (.below low)
  return x

def trueWords : List String := ["1", "on", "t", "true", "y", "yes"]

def falseWords : List String := ["0", "off", "f", "false", "n", "no"]

/-- A truth value, as itself, as 1 or 0, or as a word in any case. A whole
number that does not fit 64 bits is none at all. -/
def boolean : Json → Except Fault Bool
  | .bool b => .ok b
  | .num (.whole n) => if fitsWord n then ofWhole n else .error .notBoolean
  | .num (.real x) =>
    match wholeOfReal x with
    | .ok n => ofWhole n
    | .error _ => .error .notBoolean
  | .str s =>
    let word := String.ofList (s.toList.map Char.toLower)
    if trueWords.contains word then .ok true
    else if falseWords.contains word then .ok false
    else .error .unreadableBoolean
  | .wide _ => .error .notUnicode
  | _ => .error .notBoolean
where
  ofWhole (n : Int) : Except Fault Bool :=
    if n = 1 then .ok true else if n = 0 then .ok false else .error .unreadableBoolean

end MomentInsights.Service.Field
