-- JSON values. A number keeps whether it was written as a whole number, and an
-- object keeps its members in order.
import MomentInsights.Number.Binary64
import MomentInsights.Text.Wide

namespace MomentInsights

inductive Json where
  | null
  | bool (b : Bool)
  | num (n : Number)
  | str (s : String)
  /-- A string with halves of surrogate pairs. -/
  | wide (w : WideText)
  | arr (items : List Json)
  | obj (members : List (String × Json))
  deriving Repr

namespace Json

def whole (n : Int) : Json := num (.whole n)

def nat (n : Nat) : Json := whole n

def real (x : Binary64) : Json := num (.real x)

/-- A string of either kind. -/
def text (w : WideText) : Json :=
  match w.string? with
  | some s => str s
  | none => wide w

/-- The text of a string of either kind. -/
def wideText? : Json → Option WideText
  | str s => some s
  | wide w => some w
  | _ => none

theorem wideText?_text (w : WideText) : (text w).wideText? = some w := by
  unfold text
  split
  · rename_i h
    exact congrArg some (WideText.eq_ofString_of_string? h).symm
  · rfl

def ofOption (f : α → Json) : Option α → Json
  | some a => f a
  | none => null

def strings (xs : List String) : Json := arr (xs.map str)

/-- The value of a member; of members with one name the last counts. -/
def member? (j : Json) (name : String) : Option Json :=
  match j with
  | obj ms => (ms.reverse.find? (fun m => m.1 == name)).map (·.2)
  | _ => none

/-! ## What can be shown -/

mutual

/-- How deep the value nests when it is shown. What holds no other value is one deep. -/
def shownDepth : Json → Nat
  | arr xs => itemsDepth xs + 1
  | obj ms => membersDepth ms + 1
  | _ => 1

def itemsDepth : List Json → Nat
  | [] => 0
  | x :: xs => max (shownDepth x) (itemsDepth xs)

/-- The name of a member is shown one deep. -/
def membersDepth : List (String × Json) → Nat
  | [] => 0
  | m :: ms => max (max 1 (shownDepth m.2)) (membersDepth ms)

end

/-! ## What can be sent -/

mutual

/-- Every string of the value is a text that can be encoded. -/
def isEncodable : Json → Bool
  | wide w => w.string?.isSome
  | arr xs => allEncodable xs
  | obj ms => membersEncodable ms
  | _ => true

def allEncodable : List Json → Bool
  | [] => true
  | x :: xs => isEncodable x && allEncodable xs

def membersEncodable : List (String × Json) → Bool
  | [] => true
  | m :: ms => isEncodable m.2 && membersEncodable ms

end

end Json

end MomentInsights
