-- Binary values as short numerals. Of the decimals with the fewest digits that
-- read back as the value, the nearest is written.
import MomentInsights.Number.Binary64

namespace MomentInsights.Binary64

/-- `digits` times a power of ten. -/
structure Decimal where
  digits : Nat
  exponent : Int
  deriving DecidableEq, Repr

/-- The binary value that the decimal is read as. -/
def Decimal.value (d : Decimal) : Binary64 := ofDecimal false d.digits d.exponent

/-! ## Digits -/

/-- The power of ten of the first digit of a positive count of steps. -/
def magnitude (steps : Nat) : Int :=
  if one ≤ steps then (Nat.toDigits 10 (steps / one)).length - 1
  else
    let places := (Nat.toDigits 10 (one / steps)).length
    if one ≤ steps * 10 ^ (places - 1) then 1 - (places : Int) else -places

/-- The multiples of `10 ^ exponent` on both sides of the steps, the nearer first. -/
def neighbours (steps : Nat) (exponent : Int) : List Decimal :=
  let num := steps * 10 ^ (-exponent).toNat
  let den := one * 10 ^ exponent.toNat
  let below := num / den
  let near := nearestEven num den
  [⟨near, exponent⟩, ⟨2 * below + 1 - near, exponent⟩]

/-- The shortest decimal that reads back as a positive count of steps. No value
needs more than 17 digits. -/
def shortest? (steps : Nat) : Option Decimal :=
  (List.range 17).findSome? fun (more : Nat) =>
    (neighbours steps (magnitude steps - more)).find? fun d => d.value = finite false steps

/-! ## Layout -/

/-- The largest and the smallest place of the first digit that is written
without an exponent. -/
def plainPlaces : Int × Int := (15, -4)

/-- The digits, with zeros at the end left out. -/
def Decimal.significant (d : Decimal) : List Char :=
  ((Nat.toDigits 10 d.digits).reverse.dropWhile (· = '0')).reverse

/-- The decimal as a numeral: plain with at least one place behind the point, or
with an exponent of at least two digits. -/
def Decimal.text (d : Decimal) : String :=
  let first := (Nat.toDigits 10 d.digits).length - 1 + d.exponent
  let ds := d.significant
  let zeros (n : Int) : List Char := List.replicate n.toNat '0'
  let (whole, places, exponent) :=
    if plainPlaces.1 < first ∨ first < plainPlaces.2 then
      let size := Nat.toDigits 10 first.natAbs
      let sign := if first < 0 then '-' else '+'
      (ds.take 1, ds.drop 1, ['e', sign] ++ zeros (2 - size.length) ++ size)
    else if first < 0 then (['0'], zeros (-first - 1) ++ ds, [])
    else
      let ds := ds ++ zeros (first + 1 - ds.length)
      let places := ds.drop (first.toNat + 1)
      (ds.take (first.toNat + 1), if places.isEmpty then ['0'] else places, [])
  String.ofList (whole ++ (if places.isEmpty then [] else '.' :: places) ++ exponent)

/-- The shortest numeral of the value. -/
def text : Binary64 → String
  | finite negative steps =>
    (if negative then "-" else "") ++
      if steps = 0 then "0.0" else ((shortest? steps).map Decimal.text).getD ""
  | infinite negative => if negative then "-inf" else "inf"
  | nan => "nan"

end MomentInsights.Binary64
