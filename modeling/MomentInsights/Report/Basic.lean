-- The trace of one evaluation: every signal, every card built, dropped or
-- selected, and the counts between the stages. It answers why a card is not
-- there.
import MomentInsights.Ranking

namespace MomentInsights

inductive Stage where
  | noChild
  | insufficientData
  | detecting
  | building
  | validating
  | safetyFiltering
  | cooldownFiltering
  | ranking
  | done
  deriving DecidableEq, Repr

namespace Stage

def name : Stage → String
  | noChild => "NoChild"
  | insufficientData => "InsufficientData"
  | detecting => "Detecting"
  | building => "Building"
  | validating => "Validating"
  | safetyFiltering => "SafetyFiltering"
  | cooldownFiltering => "CooldownFiltering"
  | ranking => "Ranking"
  | done => "Done"

end Stage

/-- How many went into a stage and came out of it. -/
structure StageTrace where
  stage : Stage
  cardsIn : Nat
  cardsOut : Nat
  deriving DecidableEq, Repr

/-- The sizes of the data that were looked at. -/
structure DataStats where
  fortnightEvents : Nat := 0
  weekPositives : Nat := 0
  weekChallenges : Nat := 0
  weekRoutines : Nat := 0
  activeGoals : Nat := 0
  goalsWithDeadlines : Nat := 0
  goalsAtRisk : Nat := 0
  routines : Nat := 0
  deriving DecidableEq, Repr

structure Report where
  childId : String
  childName : Option String
  generatedAt : Timestamp
  signals : List Signal := []
  built : List Card := []
  dropped : List Dropped := []
  selected : List Card := []
  cooldowns : List Cooldown.Active := []
  stats : DataStats := {}
  stages : List StageTrace := []
  deriving Repr

namespace Report

def triggered (r : Report) : List Signal := r.signals.filter (·.triggered)

def notTriggered (r : Report) : List Signal := r.signals.filter (!·.triggered)

def hasInsufficientData (r : Report) : Bool := r.stats.fortnightEvents < minEvents

def finalStage (r : Report) : Option Stage := r.stages.getLast?.map (·.stage)

def summary (r : Report) : String :=
  s!"Built: {r.built.length} -> Dropped: {r.dropped.length} -> Selected: {r.selected.length}"

def droppedFor (r : Report) (reason : DropReason) : List Dropped :=
  r.dropped.filter (·.reason == reason)

end Report

end MomentInsights
