-- Fields that hold text.
import MomentInsights.Event
import MomentInsights.Json.Value
import MomentInsights.Service.Fault
import MomentInsights.Text.Characters

namespace MomentInsights.Service.Field

/-- Any string. -/
def wideText (j : Json) : Except Fault WideText :=
  match j.wideText? with
  | some w => .ok w
  | none => .error .notText

/-- Any text. -/
def text : Json → Except Fault String
  | .str s => .ok s
  | .wide _ => .error .notUnicode
  | _ => .error .notText

/-- Text of at most so many characters. -/
def textUpTo (most : Nat) (j : Json) : Except Fault String := do
  let s ← text j
  if most < s.length then throw (.textTooLong most)
  return s

/-- Text of one to so many characters. -/
def textWithin (most : Nat) (j : Json) : Except Fault String := do
  let s ← textUpTo most j
  if s = "" then throw .emptyText
  return s

def id (j : Json) : Except Fault String := textWithin 64 j

/-- A value that stands for nothing: null, false, zero, and what is empty. -/
def isNothing : Json → Bool
  | .null => true
  | .bool b => !b
  | .num (.whole n) => n == 0
  | .num (.real (.finite _ n)) => n == 0
  | .str s => s == ""
  | .arr xs => xs.isEmpty
  | .obj ms => ms.isEmpty
  | _ => false

/-- A name, without the blanks at its ends. -/
def name (j : Json) : Except Fault String :=
  let j := match j with
    | .str s => .str (Text.trim s)
    | j => j
  if isNothing j then .error .blankName else textWithin 128 j

def category : Json → Except Fault EventCategory
  | .str s =>
    match EventCategory.ofRecordName? s with
    | some c => .ok c
    | none => .error .notACategory
  | .wide _ => .error .notUnicode
  | _ => .error .notACategory

end MomentInsights.Service.Field
