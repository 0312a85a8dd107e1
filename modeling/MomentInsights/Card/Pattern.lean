-- Texts with slots, how they are written, and how the slots of a written text
-- are filled.

namespace MomentInsights

/-- The values that a card text may name. -/
inductive Slot where
  | childName
  | count
  | days
  | goalName
  | behaviorName
  | daysRemaining
  | progress
  deriving DecidableEq, Repr

namespace Slot

def name : Slot → String
  | childName => "childName"
  | count => "count"
  | days => "days"
  | goalName => "goalName"
  | behaviorName => "behaviorName"
  | daysRemaining => "daysRemaining"
  | progress => "progress"

/-- The slots in the order in which they are filled. -/
def all : List Slot := [childName, count, days, goalName, behaviorName, daysRemaining, progress]

/-- The name in braces. -/
def placeholder (s : Slot) : String := "\x7b" ++ s.name ++ "\x7d"

end Slot

/-- A piece of a card text: words, or a slot. -/
inductive Piece where
  | say (words : String)
  | slot (s : Slot)
  deriving DecidableEq, Repr

namespace Piece

def written : Piece → String
  | say w => w
  | slot s => s.placeholder

end Piece

/-- The text of the pieces, with a placeholder for each slot. -/
def written (ps : List Piece) : String := String.join (ps.map Piece.written)

/-! ## Filling -/

namespace Text

/-- Puts `new` for each occurrence of `old`, from left to right; occurrences do
not overlap, and what was put in is not looked at again. An empty `old` occurs
nowhere. -/
def replaceAll (old new : List Char) : List Char → List Char
  | [] => []
  | c :: r =>
    if old ≠ [] ∧ old.isPrefixOf (c :: r) then new ++ replaceAll old new (r.drop (old.length - 1))
    else c :: replaceAll old new r
termination_by cs => cs.length
decreasing_by
  · simp only [List.length_drop, List.length_cons]; omega
  · simp

end Text

/-- The text with the placeholders of `args` filled, one name after the other:
a value that is put in may hold a placeholder of a later name. -/
def fill (args : List (String × String)) (text : String) : String :=
  String.ofList (args.foldl
    (fun cs arg => Text.replaceAll ("\x7b" ++ arg.1 ++ "\x7d").toList arg.2.toList cs) text.toList)

end MomentInsights
