-- The tables: rows found by their id, and the view of them that insights are
-- computed from. The cooldown text is kept beside them.
import MomentInsights.Engine
import MomentInsights.Records.Reward

namespace MomentInsights

structure Tables where
  children : List Child := []
  behaviors : List Behavior := []
  rewards : List Reward := []
  moments : List Moment := []
  /-- The stored text of the cooldown records. -/
  cooldowns : Option String := none
  deriving Repr

namespace Tables

/-! ## Rows -/

def child? (t : Tables) (id : String) : Option Child := t.children.find? (·.id == id)

def behavior? (t : Tables) (id : String) : Option Behavior := t.behaviors.find? (·.id == id)

def reward? (t : Tables) (id : String) : Option Reward := t.rewards.find? (·.id == id)

def moment? (t : Tables) (id : String) : Option Moment := t.moments.find? (·.id == id)

def addChild (t : Tables) (c : Child) : Tables := { t with children := t.children ++ [c] }

def addBehavior (t : Tables) (b : Behavior) : Tables := { t with behaviors := t.behaviors ++ [b] }

def addReward (t : Tables) (r : Reward) : Tables := { t with rewards := t.rewards ++ [r] }

def addMoment (t : Tables) (m : Moment) : Tables := { t with moments := t.moments ++ [m] }

/-- Makes a reward the active one of a child. -/
def activate (t : Tables) (childId rewardId : String) : Tables :=
  { t with children := t.children.map fun c =>
      if c.id == childId then { c with activeGoalId := some rewardId } else c }

/-- Rows in the order of their ids. -/
def byId (id : α → String) (rows : List α) : List α :=
  rows.mergeSort fun a b => (compare (id a) (id b)).isLE

/-! ## What insights read -/

/-- The moments of a child in order of time. -/
def momentsOf (t : Tables) (childId : String) : List Moment :=
  (t.moments.filter (·.childId == childId)).mergeSort Moment.le

def events (t : Tables) (childId : String) : List Event :=
  (t.momentsOf childId).map fun m => m.event (t.behavior? m.behaviorId)

/-- The goals of a known child in order of creation; an unknown child has none. -/
def goals (t : Tables) (now : Instant) (childId : String) : List Goal :=
  match t.child? childId with
  | none => []
  | some c =>
    let moments := t.momentsOf childId
    let rewards := (t.rewards.filter (·.childId == childId)).mergeSort Reward.le
    rewards.map fun r => r.goal moments (c.activeGoalId == some r.id) now

/-- The records as they count at `now`. -/
def source (t : Tables) (now : Instant) : Source where
  child := t.child?
  events := t.events
  goals := t.goals now
  routines := byId (·.id) (t.behaviors.filter fun b => b.active && b.isRoutine)
  behaviors := byId (·.id) t.behaviors

/-! ## Laws -/

/-- Activating a reward neither adds nor removes a child. -/
theorem child?_activate_isSome (t : Tables) (childId rewardId id : String) :
    ((t.activate childId rewardId).child? id).isSome = (t.child? id).isSome := by
  rw [Bool.eq_iff_iff]
  simp only [child?, activate, List.find?_isSome, List.mem_map]
  constructor
  · rintro ⟨c, ⟨d, hd, rfl⟩, hc⟩
    refine ⟨d, hd, ?_⟩
    split at hc <;> exact hc
  · rintro ⟨d, hd, h⟩
    refine ⟨_, ⟨d, hd, rfl⟩, ?_⟩
    split <;> exact h

end Tables

end MomentInsights
