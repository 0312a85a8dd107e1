-- A logged moment: one thing that a child did. What can be logged, and for whom.
import MomentInsights.Time.Instant

namespace MomentInsights

inductive EventCategory where
  | routine
  | positive
  | negative
  deriving DecidableEq, Repr

namespace EventCategory

def name : EventCategory → String
  | routine => "routinePositive"
  | positive => "positive"
  | negative => "negative"

def all : List EventCategory := [routine, positive, negative]

def ofName? (s : String) : Option EventCategory := all.find? (fun c => c.name == s)

theorem ofName?_name (c : EventCategory) : ofName? c.name = some c := by cases c <;> decide

/-- The name in the stored records. -/
def recordName : EventCategory → String
  | routine => "routine_positive"
  | positive => "positive"
  | negative => "negative"

def ofRecordName? (s : String) : Option EventCategory := all.find? (fun c => c.recordName == s)

end EventCategory

structure Event where
  id : String
  childId : String
  time : Instant
  category : EventCategory
  stars : Int
  behaviorId : String
  behaviorName : String
  goalId : Option String
  caregiverId : Option String
  deriving DecidableEq, Repr

namespace Event

/-- Routines count as positive events. -/
def isPositive (e : Event) : Bool := e.category != .negative

def isRoutine (e : Event) : Bool := e.category == .routine

def isChallenge (e : Event) : Bool := e.category == .negative

theorem isPositive_eq_not_isChallenge (e : Event) : e.isPositive = !e.isChallenge := rfl

theorem isPositive_of_isRoutine {e : Event} (h : e.isRoutine = true) : e.isPositive = true := by
  simp only [isRoutine, beq_iff_eq] at h
  simp [isPositive, h]

end Event

/-! ## What can be logged, and for whom -/

structure Behavior where
  id : String
  name : String
  category : EventCategory
  defaultPoints : Int
  active : Bool
  deriving DecidableEq, Repr

namespace Behavior

def isRoutine (b : Behavior) : Bool := b.category == .routine

end Behavior

structure Child where
  id : String
  name : String
  age : Option Int
  activeGoalId : Option String
  deriving DecidableEq, Repr

end MomentInsights
