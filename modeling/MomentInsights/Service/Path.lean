-- Paths as they stand in requests, and the places of the service they lead to.
import MomentInsights.Text.Utf8

namespace MomentInsights.Service

/-! ## Percent encoding -/

/-- The value of a hexadecimal digit, given as a byte. -/
def hexValue? (b : Nat) : Option Nat :=
  if 48 ≤ b ∧ b ≤ 57 then some (b - 48)
  else if 65 ≤ b ∧ b ≤ 70 then some (b - 55)
  else if 97 ≤ b ∧ b ≤ 102 then some (b - 87)
  else none

/-- The bytes with each percent sign and its two digits read as one byte. A
percent sign without two digits stands for itself. -/
def percentDecode : List Nat → List Nat
  | 37 :: a :: b :: rest =>
    match hexValue? a, hexValue? b with
    | some x, some y => (x * 16 + y) :: percentDecode rest
    | _, _ => 37 :: percentDecode (a :: b :: rest)
  | c :: rest => c :: percentDecode rest
  | [] => []
termination_by bs => bs.length

/-- The path that percent-encoded text writes. -/
def decodePath (text : String) : String := Text.ofUtf8 (percentDecode (Text.toUtf8 text))

/-! ## Routes -/

/-- The places of the service. -/
inductive Route where
  | health
  | children
  | behaviors
  | rewards
  | momentBatch
  | cooldowns
  | cards (childId : String)
  | displayed (childId : String)
  | debug (childId : String)
  | debugText (childId : String)
  deriving DecidableEq, Repr

namespace Route

/-- The one method that each place answers to. -/
def method : Route → String
  | health | cooldowns | cards _ | debug _ | debugText _ => "GET"
  | children | behaviors | rewards | momentBatch | displayed _ => "POST"

/-- The place below the insights of a child. The name of the child is not empty. -/
def ofChild? (childId : String) (rest : List String) : Option Route :=
  if childId = "" then none
  else
    match rest with
    | ["cards"] => some (cards childId)
    | ["cards", "displayed"] => some (displayed childId)
    | ["debug"] => some (debug childId)
    | ["debug.txt"] => some (debugText childId)
    | _ => none

/-- The place that the parts between the slashes name. -/
def ofParts? : List String → Option Route
  | ["", "health"] => some health
  | ["", "records", "children"] => some children
  | ["", "records", "behaviors"] => some behaviors
  | ["", "records", "rewards"] => some rewards
  | ["", "records", "moments", "batch"] => some momentBatch
  | ["", "insights", "cooldowns"] => some cooldowns
  | "" :: "insights" :: childId :: rest => ofChild? childId rest
  | _ => none

/-- The place that a decoded path names. One line break at the end is passed
over. -/
def ofPath? (path : String) : Option Route :=
  let cs := path.toList
  let cs := if cs.getLast? = some '\n' then cs.dropLast else cs
  ofParts? ((cs.splitOn '/').map String.ofList)

/-- The place that a decoded path names once the slashes at its end are gone. A
request to such a path is sent on to the place. -/
def ofSlashed? (path : String) : Option Route :=
  let cs := path.toList.reverse
  if cs.head? = some '/' then ofPath? (String.ofList (cs.dropWhile (· = '/')).reverse) else none

end Route

end MomentInsights.Service
