-- What a detector finds: a behavioral pattern, the events that show it, and
-- the numbers that a card will name.
import MomentInsights.Event
import MomentInsights.Window

namespace MomentInsights

inductive SignalKind where
  | goalAtRisk
  | goalStalled
  | routineForming
  | routineSlipping
  | highChallengeWeek
  deriving DecidableEq, Repr

namespace SignalKind

def name : SignalKind → String
  | goalAtRisk => "goal_at_risk"
  | goalStalled => "goal_stalled"
  | routineForming => "routine_forming"
  | routineSlipping => "routine_slipping"
  | highChallengeWeek => "high_challenge_week"

def all : List SignalKind :=
  [goalAtRisk, goalStalled, routineForming, routineSlipping, highChallengeWeek]

def ofName? (s : String) : Option SignalKind := all.find? (fun k => k.name == s)

theorem ofName?_name (k : SignalKind) : ofName? k.name = some k := by cases k <;> decide

end SignalKind

/-- The ids of the events that a signal rests on. -/
structure Citation where
  eventIds : List String
  window : Window
  count : Int
  deriving DecidableEq, Repr

namespace Citation

def none : Citation := ⟨[], .week, 0⟩

def ofEvents (es : List Event) (w : Window) : Citation :=
  ⟨es.map (·.id), w, es.length⟩

end Citation

/-- The values of a signal that a card may name. -/
structure SignalDetails where
  goalId : Option String := none
  goalName : Option String := none
  behaviorId : Option String := none
  behaviorName : Option String := none
  daysRemaining : Option Int := none
  progress : Option Number := none
  count : Option Int := none
  daysSince : Option Int := none
  deriving DecidableEq, Repr

/-- The first id, unless it is missing or empty; then the second. -/
def firstNamed (a b : Option String) : Option String :=
  match a with
  | some s => if s = "" then b else some s
  | none => b

namespace SignalDetails

/-- What the signal is about: the goal, or else the behavior. -/
def entityId (d : SignalDetails) : Option String := firstNamed d.goalId d.behaviorId

end SignalDetails

structure Signal where
  kind : SignalKind
  triggered : Bool
  confidence : Number
  evidence : Citation
  explanation : String
  details : SignalDetails
  deriving DecidableEq, Repr

namespace Signal

/-- A miss: no confidence, no evidence, only the reason. -/
def miss (kind : SignalKind) (reason : String) : Signal :=
  { kind, triggered := false, confidence := .real .zero, evidence := .none, explanation := reason,
    details := {} }

/-- A hit that rests on the events of a window. -/
def hit (kind : SignalKind) (confidence : Binary64) (es : List Event) (w : Window)
    (explanation : String) (details : SignalDetails) : Signal :=
  { kind, triggered := true, confidence := .real confidence, evidence := .ofEvents es w,
    explanation, details }

end Signal

end MomentInsights
