-- The ids of cards. An id depends only on the template, the child, the entity
-- and the window, so the same insight has the same id on every request.
import MomentInsights.Text.Digits

namespace MomentInsights.StableId

/-- What the id is made from. An empty entity counts as none. -/
def key (templateId childId : String) (entityId : Option String) (windowDays : Int) : String :=
  let entity := match entityId with
    | some e => if e = "" then "none" else e
    | none => "none"
  s!"{templateId}:{childId}:{entity}:{windowDays}"

/-- One more byte: times 31, in 64 bits. -/
def step (h : UInt64) (b : UInt8) : UInt64 := h * 31 + b.toUInt64

/-- The polynomial in 31 over the bytes of the text, modulo 2 ^ 64. -/
def polynomial (s : String) : UInt64 := s.toUTF8.toList.foldl step 0

/-- The size of a 64-bit word read as a signed number. -/
def signedSize (h : UInt64) : Nat :=
  if h.toNat < 2 ^ (63 : Nat) then h.toNat else 2 ^ (64 : Nat) - h.toNat

/-- Eight hexadecimal digits: the low half of the signed size. -/
def hash (s : String) : String := Text.hex 8 (signedSize (polynomial s) % 2 ^ (32 : Nat))

/-- The id of a card. -/
def cardId (templateId childId : String) (entityId : Option String) (windowDays : Int) : String :=
  s!"{templateId}-{hash (key templateId childId entityId windowDays)}"

end MomentInsights.StableId
