-- Rewards that a child earns points for, and the goals that they are.
import MomentInsights.Goal
import MomentInsights.Records.Moment

namespace MomentInsights

/-- A reward with a number of points to earn. -/
structure Reward where
  id : String
  childId : String
  name : String
  targetPoints : Int
  start : Option Instant
  due : Option Instant
  redeemed : Bool
  expired : Bool
  /-- The points at the time the reward was redeemed or expired. -/
  frozenPoints : Option Int
  created : Instant
  deriving DecidableEq, Repr

namespace Reward

-- Sums start at the core library's zero, whatever else is imported.
attribute [local instance (high)] Zero.ofOfNat0

/-- The moment counts toward the reward: it earned points between the start and
the due date, or now. The child's active reward counts all moments, another
one those that are linked to it. -/
def counts (r : Reward) (active : Bool) (now : Instant) (m : Moment) : Bool :=
  m.childId == r.childId && r.start.getD r.created ≤ m.time && m.time ≤ r.due.getD now &&
    0 < m.points && (active || m.rewardId == some r.id)

/-- The points earned. A reward that is redeemed or expired keeps its frozen
points, if it has any. -/
def earned (r : Reward) (moments : List Moment) (active : Bool) (now : Instant) : Int :=
  let sum := ((moments.filter (r.counts active now)).map (·.points)).sum
  if r.redeemed || r.expired then r.frozenPoints.getD sum else sum

/-- The goal that the reward is. -/
def goal (r : Reward) (moments : List Moment) (active : Bool) (now : Instant) : Goal where
  id := r.id
  childId := r.childId
  name := r.name
  targetPoints := r.targetPoints
  currentPoints := r.earned moments active now
  created := r.created
  due := r.due
  redeemed := r.redeemed
  expired := r.expired

/-- Order by creation, then by id. -/
def le (a b : Reward) : Bool :=
  ((compare a.created.micros b.created.micros).then (compare a.id b.id)).isLE

end Reward

end MomentInsights
