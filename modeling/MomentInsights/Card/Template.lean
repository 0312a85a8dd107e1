-- The five card templates, one for each kind of signal.
import MomentInsights.Card.Action
import MomentInsights.Card.Pattern
import MomentInsights.Signal

namespace MomentInsights

/-- How much a card matters before anything is added for urgency. -/
inductive Priority where
  | low
  | medium
  | high
  | urgent
  | critical
  deriving DecidableEq, Repr

namespace Priority

def level : Priority → Int
  | low => 1
  | medium => 2
  | high => 3
  | urgent => 4
  | critical => 5

def ofLevel? (n : Int) : Option Priority :=
  [low, medium, high, urgent, critical].find? (fun p => p.level == n)

end Priority

structure Template where
  id : String
  signal : SignalKind
  priority : Priority
  title : String
  oneLiner : String
  steps : List String
  why : String
  action : ActionKind
  history : Option HistoryType
  deriving DecidableEq, Repr

namespace Template

open Piece Slot

/-- The template of the signal kind. -/
def ofSignal : SignalKind → Template
  | .goalAtRisk => {
      id := "goal_at_risk"
      signal := .goalAtRisk
      priority := .urgent
      title := written [slot goalName, say " needs a push"]
      oneLiner := written [say "Only ", slot daysRemaining, say " days left and ", slot progress,
        say " complete."]
      steps := [
        "Focus on quick wins that earn stars",
        "Celebrate each step toward the goal",
        "Consider if the goal needs adjusting"]
      why := written [say "Based on ", slot count, say " events in the last ", slot days,
        say " days, the current pace may not reach the goal in time."]
      action := .goalDetail
      history := none }
  | .goalStalled => {
      id := "goal_stalled"
      signal := .goalStalled
      priority := .high
      title := written [slot goalName, say " progress has paused"]
      oneLiner := written [say "No progress in the last ", slot days, say " days."]
      steps := [
        written [say "Check in with ", slot childName, say " about the goal"],
        "Look for small wins to log today",
        "Consider breaking the goal into smaller milestones"]
      why := written [say "No positive moments logged toward this goal in ", slot days,
        say " days."]
      action := .goalDetail
      history := none }
  | .routineForming => {
      id := "routine_forming"
      signal := .routineForming
      priority := .medium
      title := written [slot behaviorName, say " is becoming a habit"]
      oneLiner := written [slot childName, say " has done this ", slot count,
        say " times in the last ", slot days, say " days."]
      steps := [
        "Keep acknowledging when it happens",
        "Try not to overpraise - consistency matters more",
        "Notice if it happens at the same time each day"]
      why := written [slot count, say " occurrences in ", slot days,
        say " days shows a pattern forming."]
      action := .history
      history := some .routines }
  | .routineSlipping => {
      id := "routine_slipping"
      signal := .routineSlipping
      priority := .high
      title := written [slot behaviorName, say " has been quiet"]
      oneLiner := written [say "Last logged ", slot days, say " days ago after being consistent."]
      steps := [
        "Check if something changed in the routine",
        written [say "Gently remind ", slot childName, say " about this behavior"],
        "Don't worry - habits can restart"]
      why := written [say "This routine was happening regularly but hasn't been logged in ",
        slot days, say " days."]
      action := .history
      history := some .routines }
  | .highChallengeWeek => {
      id := "high_challenge_week"
      signal := .highChallengeWeek
      priority := .medium
      title := written [say "Tough stretch for ", slot childName]
      oneLiner := written [slot count, say " challenges logged in the last ", slot days,
        say " days."]
      steps := [
        "Look for patterns in when challenges happen",
        "Try to catch and log more positive moments",
        "Consider if something external is affecting behavior"]
      why := written [say "More challenges than positive moments in the last ", slot days,
        say " days. This is data, not a judgment."]
      action := .history
      history := some .challenges }

/-- All templates. -/
def all : List Template := SignalKind.all.map ofSignal

def ofId? (id : String) : Option Template := all.find? (fun t => t.id == id)

/-- A template is known by the name of its signal. -/
theorem ofSignal_id (k : SignalKind) : (ofSignal k).id = k.name := by cases k <;> rfl

/-- The id of the card that says that there is too little data. -/
def insufficientDataId : String := "insufficient_data"

/-- The fewest events that a card of the template must cite. -/
def minimumEvidence (templateId : String) : Nat :=
  if templateId = SignalKind.goalAtRisk.name then minEventsAtRisk
  else if templateId = insufficientDataId then 0
  else minEvents

end Template

end MomentInsights
