-- The encodings of JSON text. A JSON text starts with an ASCII character, so the
-- zeros among its first bytes tell the size of a unit and the order of its bytes.
import MomentInsights.Text.Wide

namespace MomentInsights.Text

inductive Encoding where
  | utf8
  | utf16 (bigEndian : Bool)
  | utf32 (bigEndian : Bool)
  deriving DecidableEq, Repr

namespace Encoding

/-- The encoding of a JSON text of the given bytes. -/
def ofBytes : List Nat → Encoding
  | [a, b] => if a = 0 then .utf16 true else if b = 0 then .utf16 false else .utf8
  | a :: b :: c :: d :: _ =>
    if a = 0 then (if b = 0 then .utf32 true else .utf16 true)
    else if b = 0 then (if c = 0 ∧ d = 0 then .utf32 false else .utf16 false)
    else .utf8
  | _ => .utf8

/-- The numbers that every two digits write; none where a digit is left over. -/
def pairs? (base : Nat) (bigEndian : Bool) : List Nat → Option (List Nat)
  | [] => some []
  | [_] => none
  | a :: b :: rest =>
    ((if bigEndian then a * base + b else b * base + a) :: ·) <$> pairs? base bigEndian rest

/-- The text that the bytes encode in units of two or four bytes. Halves of
surrogate pairs are read like characters; in units of two bytes they are joined. -/
def wide? (bytes : List Nat) : Encoding → Option WideText
  | .utf8 => none
  | .utf16 bigEndian => do
    let units ← pairs? 256 bigEndian bytes
    return WideText.joined ⟨units.map Point.ofNumber⟩
  | .utf32 bigEndian => do
    let points ← pairs? 0x10000 bigEndian (← pairs? 256 bigEndian bytes)
    if points.all (· < 0x110000) then some ⟨points.map Point.ofNumber⟩ else none

end Encoding

end MomentInsights.Text
