-- The five detectors. Each looks at one goal, one routine or the whole week,
-- with all windows ending at the timeline's `now`, and gives a hit or a miss
-- with its reason.
import MomentInsights.Event
import MomentInsights.Goal
import MomentInsights.Number.Binary64
import MomentInsights.Signal
import MomentInsights.Timeline

namespace MomentInsights

namespace Detect

-- Sums start at the core library's zero, whatever else is imported.
attribute [local instance (high)] Zero.ofOfNat0

/-! ## Fixed numbers -/

/-- A goal without a positive event for this many days is stalled. -/
def stalledDays : Nat := 5

/-- The events in a week that make a routine. -/
def formingEvents : Nat := 4

/-- The days of the week that these events must fall on, at least. -/
def formingDays : Nat := 3

/-- The days without an event after which a routine may be slipping. -/
def slippingGap : Int := 3

/-- The share of the needed pace below which a goal is at risk. -/
def paceFactor : Binary64 := .ofRatio 7 10

/-- The share of the older rate below which a routine is slipping. -/
def rateFactor : Binary64 := .ofRatio 1 2

/-- The challenges per positive event from which a week is a hard one. -/
def challengeThreshold : Binary64 := .ofInt 1

def oneReal : Binary64 := .ofInt 1

/-- The value, brought into the range from 0 to 1. -/
def clamp (x : Binary64) : Binary64 := Binary64.max .zero (Binary64.min oneReal x)

/-- Positive events come in at this rate per day of a week. -/
def weeklyRate (n : Int) : Except Failure Binary64 := quotient n Window.week.days

/-! ## Goals -/

/-- The goal will not be reached in time at the pace of the last week. -/
def goalAtRisk (g : Goal) (t : Timeline) : Except Failure Signal := do
  let miss := Signal.miss .goalAtRisk
  match g.daysRemaining t.now with
  | none => return miss "Goal has no deadline, is completed, or expired"
  | some days =>
    if !g.isActive || days ≤ 0 then return miss "Goal has no deadline, is completed, or expired"
    let found := t.positiveFortnight.length
    if found < minEventsAtRisk then
      return miss s!"Insufficient events ({found} < {minEventsAtRisk})"
    let needed := g.pointsNeeded
    if needed ≤ 0 then return miss "Goal is already complete or nearly complete"
    let paceNeeded ← quotient needed days.toNat
    let recent := t.positiveWeek
    let pace ← weeklyRate (recent.map (·.stars)).sum
    if (paceNeeded * paceFactor).le pace then
      return miss s!"Current pace ({pace.fixed 1}/day) is sufficient"
    let share ← realQuotient pace paceNeeded
    let progress ← g.progress
    return Signal.hit .goalAtRisk (clamp (oneReal - share)) recent .week
      s!"Goal '{g.name}' is at risk: need {needed} points in {days} days"
      { goalId := some g.id, goalName := some g.name, daysRemaining := some days,
        progress := some (.real progress), count := some recent.length }

/-- There were positive events, and lately there are none. -/
def goalStalled (g : Goal) (t : Timeline) : Except Failure Signal := do
  let miss := Signal.miss .goalStalled
  if !g.isActive then return miss "Goal is completed or expired"
  let found := t.positiveFortnight
  if found.length < minEvents then return miss "Insufficient events in 14-day window"
  let recent := t.positivesSince (Duration.days stalledDays)
  if !recent.isEmpty then
    return miss s!"Found {recent.length} events in last {stalledDays} days"
  match t.lastPositive with
  | none => return miss "No events found for this child"
  | some last =>
    let days := max 0 (Instant.wholeDaysBetween last.time t.now)
    let progress ← g.progress
    return Signal.hit .goalStalled
      (Binary64.min oneReal (Binary64.ofInt days / Binary64.ofInt 10)) found .fortnight
      s!"Goal '{g.name}' has stalled: no progress in {days} days"
      { goalId := some g.id, goalName := some g.name, daysRemaining := g.daysRemaining t.now,
        progress := some (.real progress), count := some found.length, daysSince := some days }

/-! ## Routines -/

/-- The calendar days of the events, each once. -/
def distinctDays (es : List Event) : List Nat := (es.map (·.time.dayNumber)).eraseDups

/-- A routine happens often enough, on enough days. -/
def routineForming (b : Behavior) (t : Timeline) : Signal :=
  let miss := Signal.miss .routineForming
  let found := (t.behaviorFortnight b.id).length
  let recent := t.behaviorWeek b.id
  let days := (distinctDays recent).length
  if !b.isRoutine then miss "Behavior is not a routine type"
  else if found < minEvents then miss s!"Insufficient events ({found} < {minEvents})"
  else if recent.length < formingEvents then
    miss s!"Not frequent enough ({recent.length} < {formingEvents} in 7 days)"
  else if days < formingDays then miss s!"Not consistent enough (only {days} unique days)"
  else
    Signal.hit .routineForming
      (Binary64.min oneReal (Binary64.ofInt recent.length / Binary64.ofInt 7)) recent .week
      s!"Routine '{b.name}' is forming: {recent.length} times in 7 days"
      { behaviorId := some b.id, behaviorName := some b.name, count := some recent.length }

/-- The events, the newest first; events of one time keep their order. -/
def newestFirst (es : List Event) : List Event := es.mergeSort (fun a b => b.time ≤ a.time)

/-- A routine that was there a week ago has become rare. -/
def routineSlipping (b : Behavior) (t : Timeline) : Except Failure Signal := do
  let miss := Signal.miss .routineSlipping
  if !b.isRoutine then return miss "Behavior is not a routine type"
  let history := newestFirst (t.behaviorFortnight b.id)
  if history.length < minEvents then return miss "Insufficient events to establish routine"
  let weekAgo := Window.week.start t.now
  let fortnightAgo := Window.fortnight.start t.now
  let older := history.filter fun e => fortnightAgo ≤ e.time && e.time < weekAgo
  let recent := history.filter fun e => weekAgo ≤ e.time
  if older.length < minEvents then return miss "No established pattern in older window"
  let olderRate ← weeklyRate older.length
  let recentRate ← weeklyRate recent.length
  if (olderRate * rateFactor).le recentRate then
    return miss "Recent rate not significantly lower than older rate"
  let days := match history.head? with
    | some newest => max 0 (Instant.wholeDaysBetween newest.time t.now)
    | none => 0
  if days < slippingGap then return miss s!"Gap ({days} days) not long enough"
  return Signal.hit .routineSlipping
    (Binary64.min oneReal (Binary64.ofInt days / Binary64.ofInt 7)) history .fortnight
    s!"Routine '{b.name}' is slipping: {days} days since last occurrence"
    { behaviorId := some b.id, behaviorName := some b.name, count := some recent.length,
      daysSince := some days }

/-! ## The week -/

/-- As many challenges as positive events, or more. -/
def highChallengeWeek (t : Timeline) : Except Failure Signal := do
  let miss := Signal.miss .highChallengeWeek
  let positives := t.positiveWeek
  let challenges := t.challengesWeek
  let total := positives.length + challenges.length
  if total < minEvents then return miss s!"Insufficient total events ({total} < {minEvents})"
  let details : SignalDetails := { count := some challenges.length }
  if positives.isEmpty then
    if challenges.length < minEvents then return miss "Not enough challenges to qualify"
    return Signal.hit .highChallengeWeek oneReal challenges .week
      s!"High challenge week: {challenges.length} challenges and 0 positives" details
  let ratio ← quotient challenges.length positives.length
  if ratio.lt challengeThreshold then
    return miss s!"Challenge ratio ({ratio.fixed 2}) below threshold"
  return Signal.hit .highChallengeWeek
    (Binary64.min oneReal (ratio / Binary64.ofInt 2)) (challenges ++ positives) .week
    s!"High challenge week: {challenges.length} challenges vs {positives.length} positives" details

/-! ## All of them -/

/-- The two signals of a goal. -/
def ofGoal (t : Timeline) (g : Goal) : Except Failure (List Signal) := do
  return [← goalAtRisk g t, ← goalStalled g t]

/-- The two signals of a routine. -/
def ofRoutine (t : Timeline) (b : Behavior) : Except Failure (List Signal) := do
  return [routineForming b t, ← routineSlipping b t]

/-- Every detector: the active goals first, then the routines, then the week. -/
def all (goals : List Goal) (routines : List Behavior) (t : Timeline) :
    Except Failure (List Signal) := do
  let ofGoals ← (Goal.activeOnly goals).mapM (ofGoal t)
  let ofRoutines ← routines.mapM (ofRoutine t)
  return ofGoals.flatten ++ ofRoutines.flatten ++ [← highChallengeWeek t]

end Detect

end MomentInsights
