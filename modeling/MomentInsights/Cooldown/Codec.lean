-- Cooldown records as stored text: a JSON array of objects. Reading passes over what is
-- no record, and reads text that is no JSON array as no records at all. What is passed
-- over is shown in a message, which a value that nests too deep makes impossible.
import MomentInsights.Cooldown.Record
import MomentInsights.Json.Reader
import MomentInsights.Time.Iso
import MomentInsights.Time.IsoReader
import MomentInsights.Time.Unix

namespace MomentInsights.Cooldown

/-! ## Writing -/

/-- One member of an object. -/
def encodeMember (name : String) (value : WideText) : String :=
  Json.quote name ++ ": " ++ Json.quote value

def encodeRecord (r : Record) : String :=
  "\x7b" ++ ", ".intercalate [
    encodeMember "templateId" r.templateId,
    encodeMember "childId" r.childId,
    encodeMember "lastShownAt" r.shown.text] ++ "\x7d"

def encode (rs : List Record) : String := "[" ++ ", ".intercalate (rs.map encodeRecord) ++ "]"

/-! ## Reading -/

/-- How deep a stored text may nest: what is left of the stack decides it, so it
differs from caller to caller. -/
structure Room where
  /-- The deepest text that is read. -/
  text : Nat
  /-- The deepest item that can be shown in a message. -/
  item : Nat
  /-- The deepest time that can be shown in a message. -/
  time : Nat
  /-- What a store writes can be read and shown. -/
  two_le_text : 2 ≤ text
  two_le_item : 2 ≤ item
  deriving DecidableEq, Repr

/-- A caller that has used little of the stack. -/
def Room.standard : Room where
  text := 993
  item := 989
  time := 989
  two_le_text := by decide
  two_le_item := by decide

/-- The time is a number of seconds since 1970, or ISO 8601 text. Anything else is
none, and a message shows it. -/
def decodeTime (room : Room) : Json → Except Failure (Option Instant)
  | .num n => Unix.ofNumber n
  | .bool _ => .ok none
  | j =>
    match j.wideText? with
    | some w => .ok do (← IsoReader.readWide? w).utc.toOption
    | none => if room.time < j.shownDepth then .error .tooDeepToShow else .ok none

/-- Passes over an item. A message shows it. -/
def passOver (room : Room) (item : Json) : Except Failure (Option Record) :=
  if room.item < item.shownDepth then .error .tooDeepToShow else .ok none

/-- The record that an item of the array holds. A record whose rest would end
after the last instant is none. -/
def decodeRecord (p : Periods) (room : Room) (item : Json) : Except Failure (Option Record) :=
  let text (name : String) := (item.member? name).bind Json.wideText?
  match text "templateId", text "childId", item.member? "lastShownAt" with
  | some templateId, some childId, some time => do
    match ← decodeTime room time with
    | some shown =>
      if p.hasEnd shown then return some ⟨templateId, childId, shown⟩ else passOver room item
    | none => passOver room item
  | _, _, _ => passOver room item

/-- The records that the stored text holds. -/
def decode (p : Periods) (room : Room) (text : Option String) : Except Failure (List Record) :=
  match text.map fun s : String => Json.read room.text s with
  | some (.ok (.arr items)) => do
    let found ← items.mapM (decodeRecord p room)
    return found.filterMap id
  | _ => .ok []

end MomentInsights.Cooldown
