-- From a signal to its card.
import MomentInsights.Card.Basic
import MomentInsights.Card.Template
import MomentInsights.Card.Variables
import MomentInsights.Time.Timestamp

namespace MomentInsights

namespace Card

/-- The action that the template asks for. Without a goal to open, the goals
are offered instead. -/
def actionFor (t : Template) (v : Variables) : Action :=
  match t.action with
  | .addMoment => .addMoment v.childId
  | .goalDetail =>
    match v.goalId with
    | some g => .goalDetail g
    | none => .goalsPicker v.childId
  | .goalsPicker => .goalsPicker v.childId
  | .history =>
    .history v.childId
      { type := t.history.getD .all, behaviorId := v.behaviorId, days := some v.days }
  | .manageBehaviors => .manageBehaviors v.childId

/-- A confidence above four fifths lifts the priority. -/
def confidenceBoost : Binary64 := .ofRatio 4 5

/-- The points for a near deadline of a goal at risk. -/
def deadlineBoost (s : Signal) : Int :=
  match s.kind, s.details.daysRemaining with
  | .goalAtRisk, some days => if days ≤ 3 then 2 else if days ≤ 7 then 1 else 0
  | _, _ => 0

/-- The template's priority, raised for urgency, confidence, freshness and a
quick action, and capped. -/
def priorityFor (t : Template) (s : Signal) : Int :=
  let raised := t.priority.level + deadlineBoost s +
    (if s.confidence.gtReal confidenceBoost then 1 else 0) +
    (if s.evidence.window = .week then 1 else 0) +
    (if t.action = .addMoment then 1 else 0)
  min raised Priority.critical.level

/-- The card of the template for the signal. -/
def build (t : Template) (s : Signal) (v : Variables) (expires : Timestamp) :
    Except Failure Card := do
  let args ← v.args
  let expires ← expires.utc
  return {
    id := StableId.cardId t.id v.childId v.entityId v.days
    childId := v.childId
    priority := priorityFor t s
    title := fill args t.title
    oneLiner := fill args t.oneLiner
    steps := t.steps.map (fill args)
    why := fill args t.why
    eventIds := s.evidence.eventIds
    action := actionFor t v
    expires
    templateId := t.id
    windowDays := v.days
    entityId := v.entityId
    localized := some (Localized.ofTemplate t.id t.steps.length args) }

/-- The card of a signal; it lives for one day. -/
def ofSignal (s : Signal) (c : Child) (now : Instant) : Except Failure Card :=
  build (Template.ofSignal s.kind) s (Variables.ofSignal s c)
    (Timestamp.ofInstant (now.shift cardLifetime))

/-! ## Too little data -/

/-- What to do while there is too little data. -/
def insufficientSteps : List String := [
  "Log a few positive moments this week",
  "Include routines like bedtime or brushing teeth",
  "Check back in a few days for personalized tips"]

/-- The one card for a child with too few moments. -/
def insufficientData (c : Child) (events : Int) (now : Instant) : Card :=
  let days : Int := Window.fortnight.days
  let id := Template.insufficientDataId
  { id := StableId.cardId id c.id none days
    childId := c.id
    priority := Priority.medium.level
    title := "Not enough moments yet"
    oneLiner := s!"Only {events} moments logged in the last {days} days."
    steps := insufficientSteps
    why := "Insights need at least 3 moments in the last 14 days."
    eventIds := []
    action := .addMoment c.id
    expires := now.shift cardLifetime
    templateId := id
    windowDays := days
    entityId := none
    localized := some (Localized.ofTemplate id insufficientSteps.length
      [("childName", c.name), ("count", toString events), ("days", toString days)]) }

end Card

end MomentInsights
