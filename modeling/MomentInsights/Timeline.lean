-- One child's events as the detectors read them at one time: the recent
-- windows, the kinds of events in them, and the events of each behavior. It is
-- built once per request, so that all detectors share a single `now`.
import MomentInsights.Event
import MomentInsights.Window

namespace MomentInsights

/-! ## Groups -/

/-- Puts the event at the end of its behavior's group, or starts a group. -/
def addToGroup (e : Event) : List (String × List Event) → List (String × List Event)
  | [] => [(e.behaviorId, [e])]
  | (id, es) :: rest =>
    if id = e.behaviorId then (id, es ++ [e]) :: rest else (id, es) :: addToGroup e rest

/-- The events by behavior, each group in the order of the list. -/
def groupByBehavior (es : List Event) : List (String × List Event) :=
  es.foldl (fun groups e => addToGroup e groups) []

/-- The group of a behavior; empty for a behavior without events. -/
def groupOf (groups : List (String × List Event)) (id : String) : List Event :=
  ((groups.find? (fun g => g.1 == id)).map (·.2)).getD []

/-! ## The index -/

structure Timeline where
  now : Instant
  all : List Event
  week : List Event
  fortnight : List Event
  positive : List Event
  positiveWeek : List Event
  positiveFortnight : List Event
  challengesWeek : List Event
  routinesWeek : List Event
  byBehavior : List (String × List Event)
  byBehaviorWeek : List (String × List Event)
  byBehaviorFortnight : List (String × List Event)
  deriving Repr

namespace Timeline

/-- The events from `start` to `stop`, both included. -/
def within (start stop : Instant) (es : List Event) : List Event :=
  es.filter fun e => start ≤ e.time && e.time ≤ stop

def ofEvents (es : List Event) (now : Instant) : Timeline :=
  let week := within (Window.week.start now) now es
  let fortnight := within (Window.fortnight.start now) now es
  { now
    all := es
    week
    fortnight
    positive := es.filter Event.isPositive
    positiveWeek := week.filter Event.isPositive
    positiveFortnight := fortnight.filter Event.isPositive
    challengesWeek := week.filter Event.isChallenge
    routinesWeek := week.filter Event.isRoutine
    byBehavior := groupByBehavior es
    byBehaviorWeek := groupByBehavior week
    byBehaviorFortnight := groupByBehavior fortnight }

def eventIds (t : Timeline) : List String := t.all.map (·.id)

def behavior (t : Timeline) (id : String) : List Event := groupOf t.byBehavior id

def behaviorWeek (t : Timeline) (id : String) : List Event := groupOf t.byBehaviorWeek id

def behaviorFortnight (t : Timeline) (id : String) : List Event :=
  groupOf t.byBehaviorFortnight id

/-- The positive events of the last stretch of the given length, and later ones. -/
def positivesSince (t : Timeline) (d : Duration) : List Event :=
  let cutoff := t.now.back d
  t.positive.filter fun e => cutoff ≤ e.time

/-- The later of two events, the first when neither is later. -/
def laterEvent (best : Option Event) (e : Event) : Option Event :=
  match best with
  | none => some e
  | some b => if b.time < e.time then some e else some b

/-- The newest positive event; of several, the first in the list. -/
def lastPositive (t : Timeline) : Option Event := t.positive.foldl laterEvent none

/-! ## The groups hold what the filters hold -/

theorem groupOf_addToGroup (e : Event) (groups : List (String × List Event)) (id : String) :
    groupOf (addToGroup e groups) id =
      if e.behaviorId = id then groupOf groups id ++ [e] else groupOf groups id := by
  induction groups with
  | nil =>
    by_cases h : e.behaviorId = id <;> simp [addToGroup, groupOf, h]
  | cons g rest ih =>
    obtain ⟨k, es⟩ := g
    simp only [addToGroup]
    by_cases hk : k = e.behaviorId
    · subst hk
      by_cases h : e.behaviorId = id <;> simp [groupOf, h]
    · rw [if_neg hk]
      by_cases hid : k = id
      · subst hid
        simp [groupOf, Ne.symm hk]
      · have hstep : ∀ gs : List (String × List Event),
            groupOf ((k, es) :: gs) id = groupOf gs id := by
          intro gs; simp [groupOf, hid]
        rw [hstep, hstep, ih]

/-- A group is the plain filter of the list by behavior. -/
theorem groupOf_groupByBehavior (es : List Event) (id : String) :
    groupOf (groupByBehavior es) id = es.filter (fun e => e.behaviorId == id) := by
  have hfold : ∀ (es : List Event) (groups : List (String × List Event)),
      groupOf (es.foldl (fun groups e => addToGroup e groups) groups) id =
        groupOf groups id ++ es.filter (fun e => e.behaviorId == id) := by
    intro es
    induction es with
    | nil => simp
    | cons e es ih =>
      intro groups
      rw [List.foldl_cons, ih, groupOf_addToGroup]
      by_cases h : e.behaviorId = id <;> simp [h]
  rw [groupByBehavior, hfold]
  simp [groupOf]

end Timeline

end MomentInsights
