-- What a card offers to do.

namespace MomentInsights

/-- Which part of the history to open. -/
inductive HistoryType where
  | all
  | positive
  | challenges
  | routines
  | goals
  deriving DecidableEq, Repr

namespace HistoryType

def name : HistoryType → String
  | all => "all"
  | positive => "positive"
  | challenges => "challenges"
  | routines => "routines"
  | goals => "goals"

def members : List HistoryType := [all, positive, challenges, routines, goals]

def ofName? (s : String) : Option HistoryType := members.find? (fun t => t.name == s)

end HistoryType

structure HistoryFilter where
  type : HistoryType := .all
  behaviorId : Option String := none
  days : Option Int := none
  deriving DecidableEq, Repr

inductive Action where
  | addMoment (childId : String)
  | goalDetail (goalId : String)
  | goalsPicker (childId : String)
  | history (childId : String) (filter : HistoryFilter)
  | manageBehaviors (childId : String)
  deriving DecidableEq, Repr

namespace Action

/-- The kind of the action as clients know it. -/
def name : Action → String
  | addMoment _ => "openAddMoment"
  | goalDetail _ => "openGoalDetail"
  | goalsPicker _ => "openGoalsPicker"
  | history _ _ => "openHistory"
  | manageBehaviors _ => "openManageBehaviors"

/-- The words on the button. -/
def button : Action → String
  | addMoment _ => "Log a moment"
  | goalDetail _ => "View goal"
  | goalsPicker _ => "Pick a goal"
  | history _ _ => "View history"
  | manageBehaviors _ => "Manage behaviors"

def goalId? : Action → Option String
  | goalDetail g => some g
  | _ => none

def childId? : Action → Option String
  | addMoment c => some c
  | goalDetail _ => none
  | goalsPicker c => some c
  | history c _ => some c
  | manageBehaviors c => some c

def filter? : Action → Option HistoryFilter
  | history _ f => some f
  | _ => none

end Action

/-- The kind of action that a template asks for. -/
inductive ActionKind where
  | addMoment
  | goalDetail
  | goalsPicker
  | history
  | manageBehaviors
  deriving DecidableEq, Repr

namespace ActionKind

def name : ActionKind → String
  | addMoment => "addMoment"
  | goalDetail => "goalDetail"
  | goalsPicker => "goalsPicker"
  | history => "history"
  | manageBehaviors => "manageBehaviors"

def members : List ActionKind := [addMoment, goalDetail, goalsPicker, history, manageBehaviors]

def ofName? (s : String) : Option ActionKind := members.find? (fun k => k.name == s)

end ActionKind

end MomentInsights
