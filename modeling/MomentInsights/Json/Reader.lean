-- JSON text, written and read. Strings are written in ASCII. Reading takes two
-- liberties with the grammar: NaN, Infinity and -Infinity are numbers. Text that nests
-- deeper than the reader can go, or that writes a whole number with too many digits, is
-- refused for that reason.
import MomentInsights.Json.Value
import MomentInsights.Text.Digits

namespace MomentInsights.Json

/-! ## Writing strings -/

/-- The escape of a 16-bit unit by its number. -/
def unitEscape (n : Nat) : List Char := '\\' :: 'u' :: (Text.hex 4 n).toList

/-- One code point inside the quotes. What is not in ASCII is written by its units. -/
def quotePoint (p : Point) : List Char :=
  let n := p.number
  if n = '"'.toNat then ['\\', '"']
  else if n = '\\'.toNat then ['\\', '\\']
  else if n = '\n'.toNat then ['\\', 'n']
  else if n = '\r'.toNat then ['\\', 'r']
  else if n = '\t'.toNat then ['\\', 't']
  else if n = 8 then ['\\', 'b']
  else if n = 12 then ['\\', 'f']
  else if 32 ≤ n ∧ n ≤ 126 then [Char.ofNat n]
  else p.units.flatMap unitEscape

/-- The text as a JSON string. -/
def quote (w : WideText) : String :=
  String.ofList ('"' :: (w.points.flatMap quotePoint ++ ['"']))

/-! ## Reading -/

/-- Why a text is no JSON value. `malformed` gives the position where something
else was expected; an unterminated string is malformed at its opening quote. -/
inductive ReadError where
  | malformed (position : Nat)
  | tooDeep
  | tooManyDigits
  deriving DecidableEq, Repr

namespace Reader

open Text

/-- A stop inside the text, with the number of code points that are left. -/
inductive Stop where
  | unexpected (left : Nat)
  | tooDeep
  | tooManyDigits

/-- The most digits of a whole number. -/
def maxDigits : Nat := 4300

def isSpace (p : Point) : Bool :=
  p = .char ' ' || p = .char '\t' || p = .char '\n' || p = .char '\r'

def skip (ps : List Point) : List Point := ps.dropWhile isSpace

/-! ### Strings -/

/-- The unit that four hexadecimal digits at the front write. More text has to follow. -/
def unit? : List Point → Option Nat
  | .char a :: .char b :: .char c :: .char d :: _ :: _ => hex4? a b c d
  | _ => none

/-- The low half whose escape is at the front. -/
def lowHalf? : List Point → Option (Fin 0x400)
  | .char '\\' :: .char 'u' :: ps => do (Point.ofNumber (← unit? ps)).low?
  | _ => none

/-- The code point that is written behind `\u`, and over how many code points. A high
half takes the escape of a low half along that follows it. -/
def escapedPoint? (ps : List Point) : Option (Point × Nat) := do
  match Point.ofNumber (← unit? ps) with
  | .high i =>
    match lowHalf? (ps.drop 4) with
    | some j => some (.char (Point.pairChar i j), 10)
    | none => some (.high i, 4)
  | p => some (p, 4)

/-- The character that a backslash and `p` stand for. -/
def escaped? (p : Point) : Option Char :=
  if p = .char '"' ∨ p = .char '\\' ∨ p = .char '/' then p.char?
  else if p = .char 'b' then some (Char.ofNat 8)
  else if p = .char 'f' then some (Char.ofNat 12)
  else if p = .char 'n' then some '\n'
  else if p = .char 'r' then some '\r'
  else if p = .char 't' then some '\t'
  else none

/-- The rest of a string after its opening quote. `opening` is the number of code
points left at that quote, and `done` has the code points so far, last first. -/
def stringRest (opening : Nat) (done : List Point) :
    List Point → Except Stop (WideText × List Point)
  | [] => .error (.unexpected opening)
  | p :: r =>
    if p = .char '"' then .ok (⟨done.reverse⟩, r)
    else if p = .char '\\' then
      match r with
      | [] => .error (.unexpected opening)
      | e :: r =>
        if e = .char 'u' then
          match escapedPoint? r with
          | some (x, taken) => stringRest opening (x :: done) (r.drop taken)
          | none => .error (.unexpected (r.length + 1))
        else
          match escaped? e with
          | some c => stringRest opening (.char c :: done) r
          | none => .error (.unexpected (r.length + 2))
    else if p.number < 32 then .error (.unexpected (r.length + 1))
    else stringRest opening (p :: done) r
termination_by ps => ps.length
decreasing_by all_goals simp only [List.length_cons, List.length_drop]; omega

/-! ### Numbers -/

/-- The exponent at the front, if `e` and at least one digit are there. -/
def exponent (cs : List Char) : Option (Int × List Char) :=
  match cs with
  | e :: r =>
    if e = 'e' ∨ e = 'E' then
      let (negative, r) := match r with
        | '-' :: r => (true, r)
        | '+' :: r => (false, r)
        | r => (false, r)
      let (ds, rest) := spanDigits r
      if ds.isEmpty then none
      else
        let n : Int := digitsValue ds
        some (if negative then -n else n, rest)
    else none
  | [] => none

/-- The digits after a point at the front; none without a digit. -/
def places (cs : List Char) : List Char × List Char :=
  match cs with
  | '.' :: r =>
    let (ds, rest) := spanDigits r
    if ds.isEmpty then ([], cs) else (ds, rest)
  | _ => ([], cs)

/-- The digits of the whole part: a zero alone, or digits that start with
another one. -/
def wholeDigits (cs : List Char) : Option (List Char × List Char) :=
  match cs with
  | '0' :: r => some (['0'], r)
  | cs =>
    let (ds, rest) := spanDigits cs
    if ds.isEmpty then none else some (ds, rest)

/-- The number at the front of the characters, with what is left of them. `opening` is
the number of code points left at its start. -/
def number (opening : Nat) (cs : List Char) : Except Stop (Number × List Char) :=
  let (negative, r) := match cs with
    | '-' :: r => (true, r)
    | r => (false, r)
  match wholeDigits r with
  | none => .error (.unexpected opening)
  | some (ds, r) =>
    let (frac, r) := places r
    match exponent r with
    | some (e, r) =>
      .ok (.real (Binary64.ofDecimal negative (digitsValue (ds ++ frac)) (e - frac.length)), r)
    | none =>
      if !frac.isEmpty then
        .ok (.real (Binary64.ofDecimal negative (digitsValue (ds ++ frac)) (-(frac.length : Int))), r)
      else if maxDigits < ds.length then .error .tooManyDigits
      else
        let n : Int := digitsValue ds
        .ok (.whole (if negative then -n else n), r)

/-- The characters at the front of which numbers are made. -/
def numeral : List Point → List Char
  | .char c :: ps =>
    if isDigit c || c = '-' || c = '+' || c = '.' || c = 'e' || c = 'E' then c :: numeral ps else []
  | _ => []

/-! ### Values -/

/-- The values that are written as words. -/
def words : List (String × Json) :=
  [("null", .null), ("true", .bool true), ("false", .bool false), ("NaN", .real .nan),
   ("Infinity", .real (.infinite false)), ("-Infinity", .real (.infinite true))]

/-- The word at the front. -/
def word? (ps : List Point) : Option (Json × List Point) :=
  words.findSome? fun (w, j) =>
    if (w.toList.map Point.char).isPrefixOf ps then some (j, ps.drop w.length) else none

/-- The object of the members, last first. Of members with one name the last counts. -/
def object (done : List (WideText × Json)) : Json :=
  .obj ((done.eraseDupsBy fun m n => m.1 == n.1).reverse.map fun m => (m.1.shown, m.2))

mutual

/-- The value at the front. The first number bounds the steps; the second is
the nesting that is still allowed. -/
def value : Nat → Nat → List Point → Except Stop (Json × List Point)
  | 0, _, ps => .error (.unexpected ps.length)
  | _ + 1, _, [] => .error (.unexpected 0)
  | fuel + 1, depth, p :: r =>
    if p = .char '"' then do
      let (w, rest) ← stringRest (r.length + 1) [] r
      return (.text w, rest)
    else if p = .char '\x7b' then
      match depth with
      | 0 => .error .tooDeep
      | depth + 1 =>
        match skip r with
        | .char '\x7d' :: rest => .ok (.obj [], rest)
        | rest => members fuel depth [] rest
    else if p = .char '[' then
      match depth with
      | 0 => .error .tooDeep
      | depth + 1 =>
        match skip r with
        | .char ']' :: rest => .ok (.arr [], rest)
        | rest => items fuel depth [] rest
    else
      match word? (p :: r) with
      | some found => .ok found
      | none => do
        let cs := numeral (p :: r)
        let (n, left) ← number (r.length + 1) cs
        return (.num n, (p :: r).drop (cs.length - left.length))

/-- The members of an object up to its closing brace, after `done`, which has
the last member first. -/
def members : Nat → Nat → List (WideText × Json) → List Point → Except Stop (Json × List Point)
  | 0, _, _, ps => .error (.unexpected ps.length)
  | fuel + 1, depth, done, ps =>
    match ps with
    | .char '"' :: r => do
      let (name, r) ← stringRest ps.length [] r
      match skip r with
      | .char ':' :: r => do
        let (v, r) ← value fuel depth (skip r)
        let done := (name, v) :: done
        match skip r with
        | .char '\x7d' :: rest => return (object done, rest)
        | .char ',' :: r => members fuel depth done (skip r)
        | r => .error (.unexpected r.length)
      | r => .error (.unexpected r.length)
    | ps => .error (.unexpected ps.length)

/-- The items of an array up to its closing bracket, after `done`, which has
the last item first. -/
def items : Nat → Nat → List Json → List Point → Except Stop (Json × List Point)
  | 0, _, _, ps => .error (.unexpected ps.length)
  | fuel + 1, depth, done, ps => do
    let (v, r) ← value fuel depth ps
    let done := v :: done
    match skip r with
    | .char ']' :: rest => return (.arr done.reverse, rest)
    | .char ',' :: r => items fuel depth done (skip r)
    | r => .error (.unexpected r.length)

end

/-- The whole text as one value that nests no deeper than `depth`. -/
def document (depth : Nat) (ps : List Point) : Except Stop Json := do
  let (v, r) ← value (2 * ps.length + 2) depth (skip ps)
  match skip r with
  | [] => return v
  | r => .error (.unexpected r.length)

end Reader

/-- The value that the text writes, if its arrays and objects nest no deeper than
`depth`. Halves of surrogate pairs may stand inside its strings. -/
def read (depth : Nat) (w : WideText) : Except ReadError Json :=
  match Reader.document depth w.points with
  | .ok j => .ok j
  | .error (.unexpected left) => .error (.malformed (w.points.length - left))
  | .error .tooDeep => .error .tooDeep
  | .error .tooManyDigits => .error .tooManyDigits

end MomentInsights.Json
