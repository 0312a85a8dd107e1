-- The values that fill a card's texts.
import MomentInsights.Event
import MomentInsights.Card.Pattern
import MomentInsights.Signal

namespace MomentInsights

structure Variables where
  childName : String
  childId : String
  count : Int
  days : Int
  goalName : Option String := none
  goalId : Option String := none
  behaviorName : Option String := none
  behaviorId : Option String := none
  daysRemaining : Option Int := none
  progress : Option Number := none
  deriving DecidableEq, Repr

namespace Variables

/-- What the card is about: the goal, or else the behavior. -/
def entityId (v : Variables) : Option String := firstNamed v.goalId v.behaviorId

/-- A number of hundredths as a percentage, without its fraction. -/
def percent (x : Binary64) : Except Failure String :=
  match x.truncate? with
  | some n => .ok s!"{n}%"
  | none => .error (if x = .nan then .notANumber else .infiniteNumber)

/-- A share as a percentage. A binary share is multiplied by 100 with one rounding
first. -/
def percentage : Number → Except Failure String
  | .whole n => .ok s!"{n * 100}%"
  | .real x => percent (x * Binary64.ofInt 100)

/-- The text of a slot; none for a value that is not there. -/
def valueOf (v : Variables) : Slot → Except Failure (Option String)
  | .childName => .ok (some v.childName)
  | .count => .ok (some (toString v.count))
  | .days => .ok (some (toString v.days))
  | .goalName => .ok v.goalName
  | .behaviorName => .ok v.behaviorName
  | .daysRemaining => .ok (v.daysRemaining.map toString)
  | .progress =>
    match v.progress with
    | none => .ok none
    | some p => some <$> percentage p

/-- Each slot that has a value, by name, in the order of filling. -/
def args (v : Variables) : Except Failure (List (String × String)) := do
  let found ← Slot.all.mapM fun s => do return (← v.valueOf s).map (fun value => (s.name, value))
  return found.filterMap id

/-- The text with every slot filled that has a value. -/
def interpolate (v : Variables) (text : String) : Except Failure String := do
  return fill (← v.args) text

/-- The values of a signal's card. The count is the signal's own, or else that
of its evidence. -/
def ofSignal (s : Signal) (c : Child) : Variables :=
  { childName := c.name, childId := c.id, count := s.details.count.getD s.evidence.count,
    days := s.evidence.window.days, goalName := s.details.goalName, goalId := s.details.goalId,
    behaviorName := s.details.behaviorName, behaviorId := s.details.behaviorId,
    daysRemaining := s.details.daysRemaining, progress := s.details.progress }

end Variables

end MomentInsights
