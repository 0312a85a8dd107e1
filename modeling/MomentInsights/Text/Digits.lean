-- Digits, decimal and hexadecimal: numerals of a fixed width, and the numbers that
-- digits write.

namespace MomentInsights

-- Powers of whole numbers are those of the core library, also where other ones are
-- imported.
attribute [scoped instance (20000)] instPowNat

/-- The decimal digits of `n`, with zeros in front up to `width` of them. -/
def padded (width n : Nat) : String :=
  let digits := Nat.toDigits 10 n
  String.ofList (List.replicate (width - digits.length) '0' ++ digits)

namespace Text

/-! ## Decimal digits -/

/-- The value of an ASCII decimal digit. -/
def digit? (c : Char) : Option Nat :=
  if '0' ≤ c ∧ c ≤ '9' then some (c.toNat - '0'.toNat) else none

def isDigit (c : Char) : Bool := (digit? c).isSome

/-- Exactly `count` digits at the front, as a number, and the rest. -/
def takeDigits : Nat → List Char → Option (Nat × List Char)
  | 0, cs => some (0, cs)
  | _ + 1, [] => none
  | k + 1, c :: cs => do
    let d ← digit? c
    let (n, rest) ← takeDigits k cs
    return (d * 10 ^ k + n, rest)

/-- All the digits at the front, and the rest. -/
def spanDigits (cs : List Char) : List Char × List Char := cs.span isDigit

/-- The number that the digits of `cs` write; other characters count nothing. -/
def digitsValue (cs : List Char) : Nat :=
  cs.foldl (fun n c => match digit? c with | some d => n * 10 + d | none => n) 0

/-! ## Hexadecimal digits -/

/-- The lower-case hexadecimal digits of `n`, with zeros in front up to `width`. -/
def hex (width n : Nat) : String :=
  let digits := Nat.toDigits 16 n
  String.ofList (List.replicate (width - digits.length) '0' ++ digits)

def hexDigit? (c : Char) : Option Nat :=
  if '0' ≤ c ∧ c ≤ '9' then some (c.toNat - 48)
  else if 'a' ≤ c ∧ c ≤ 'f' then some (c.toNat - 87)
  else if 'A' ≤ c ∧ c ≤ 'F' then some (c.toNat - 55)
  else none

/-- The number that four hexadecimal digits write. -/
def hex4? (a b c d : Char) : Option Nat := do
  return (((← hexDigit? a) * 16 + (← hexDigit? b)) * 16 + (← hexDigit? c)) * 16 + (← hexDigit? d)

end Text

end MomentInsights
