-- Text from UTF-8 bytes. Bytes that are no character become U+FFFD, one for
-- each longest run that starts a character and breaks off, or for each byte
-- that starts none.
import MomentInsights.Text.Wide

namespace MomentInsights.Text

/-- A character of which some bytes were read: the bits so far, how many bytes
are missing, and between which bounds the next one has to lie. -/
structure Partial where
  bits : Nat
  missing : Nat
  low : Nat := 0x80
  high : Nat := 0xBF

/-- The character that a first byte starts or is, if any. -/
inductive FirstByte where
  | char (c : Char)
  | start (p : Partial)
  | none

def firstByte (b : Nat) : FirstByte :=
  if b < 0x80 then .char (Char.ofNat b)
  else if b < 0xC2 then .none
  else if b < 0xE0 then .start { bits := b - 0xC0, missing := 1 }
  else if b = 0xE0 then .start { bits := 0, missing := 2, low := 0xA0 }
  else if b = 0xED then .start { bits := 0xD, missing := 2, high := 0x9F }
  else if b < 0xF0 then .start { bits := b - 0xE0, missing := 2 }
  else if b = 0xF0 then .start { bits := 0, missing := 3, low := 0x90 }
  else if b < 0xF4 then .start { bits := b - 0xF0, missing := 3 }
  else if b = 0xF4 then .start { bits := 4, missing := 3, high := 0x8F }
  else .none

/-- One byte where no character was begun: what it adds, and what it begins. -/
def fresh (b : Nat) : List Char × Option Partial :=
  match firstByte b with
  | .char c => ([c], none)
  | .start p => ([], some p)
  | .none => ([replacement], none)

/-- One byte after the bytes of `p`. A byte that cannot follow them is read anew
behind a replacement. -/
def next (p : Partial) (b : Nat) : List Char × Option Partial :=
  if p.low ≤ b ∧ b ≤ p.high then
    let bits := p.bits * 64 + (b - 0x80)
    if p.missing = 1 then ([Char.ofNat bits], none)
    else ([], some { bits, missing := p.missing - 1 })
  else
    let (cs, q) := fresh b
    (replacement :: cs, q)

/-- The characters of the bytes after those of a begun character. -/
def decodeAfter : Option Partial → List Nat → List Char
  | none, [] => []
  | some _, [] => [replacement]
  | none, b :: bs =>
    let (cs, p) := fresh b
    cs ++ decodeAfter p bs
  | some p, b :: bs =>
    let (cs, p) := next p b
    cs ++ decodeAfter p bs

/-- The text of the bytes. -/
def ofUtf8 (bytes : List Nat) : String := String.ofList (decodeAfter none bytes)

def toUtf8 (s : String) : List Nat := s.toUTF8.data.toList.map (·.toNat)

end MomentInsights.Text
