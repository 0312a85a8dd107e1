-- Logged moments as they are stored, and the events that they are.
import MomentInsights.Event

namespace MomentInsights

/-- A logged moment. Its behavior need not be known any more. -/
structure Moment where
  id : String
  childId : String
  behaviorId : String
  time : Instant
  points : Int
  rewardId : Option String
  loggedBy : Option String
  note : Option String
  deriving DecidableEq, Repr

namespace Moment

/-- The event that the moment is. Without its behavior the sign of the points
tells the category. -/
def event (m : Moment) (b : Option Behavior) : Event where
  id := m.id
  childId := m.childId
  time := m.time
  category :=
    match b with
    | some b => b.category
    | none => if 0 ≤ m.points then .positive else .negative
  stars := m.points
  behaviorId := m.behaviorId
  behaviorName := match b with | some b => b.name | none => "Unknown"
  goalId := m.rewardId
  caregiverId := m.loggedBy

/-- Order by time, then by id. -/
def le (a b : Moment) : Bool :=
  ((compare a.time.micros b.time.micros).then (compare a.id b.id)).isLE

end Moment

end MomentInsights
