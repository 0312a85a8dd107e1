-- The bodies of requests, field by field.
import MomentInsights.Service.Checked
import MomentInsights.Service.Field.Number
import MomentInsights.Service.Field.Text
import MomentInsights.Service.Field.Time

namespace MomentInsights.Service

/-! ## Records -/

/-- A child to be stored. -/
structure ChildForm where
  id : Option String
  name : String
  age : Option Int
  deriving Repr

def ChildForm.check : Json → Checked ChildForm :=
  object "" fun j =>
    ChildForm.mk
      <$> nullable "" j "id" Field.id
      <*> required "" j "name" Field.name
      <*> nullable "" j "age" (Field.wholeWithin 0 25)

/-- A behavior to be stored. -/
structure BehaviorForm where
  id : Option String
  name : String
  category : EventCategory
  defaultPoints : Int
  active : Bool
  deriving Repr

def BehaviorForm.check : Json → Checked BehaviorForm :=
  object "" fun j =>
    BehaviorForm.mk
      <$> nullable "" j "id" Field.id
      <*> required "" j "name" Field.name
      <*> required "" j "category" Field.category
      <*> optional "" j "default_points" 1 (Field.wholeWithin 0 100)
      <*> optional "" j "is_active" true Field.boolean

/-- A reward to be stored. -/
structure RewardForm where
  id : Option String
  childId : String
  name : String
  targetPoints : Int
  start : Option Timestamp
  due : Option Timestamp
  redeemed : Bool
  expired : Bool
  frozenPoints : Option Int
  /-- The reward becomes the child's active one. -/
  makeActive : Bool
  deriving Repr

def RewardForm.check : Json → Checked RewardForm :=
  object "" fun j =>
    RewardForm.mk
      <$> nullable "" j "id" Field.id
      <*> required "" j "child_id" Field.id
      <*> required "" j "name" Field.name
      <*> required "" j "target_points" (Field.wholeAbove 0 100000)
      <*> nullable "" j "start_date" Field.time
      <*> nullable "" j "due_date" Field.time
      <*> optional "" j "is_redeemed" false Field.boolean
      <*> optional "" j "is_expired" false Field.boolean
      <*> nullable "" j "frozen_earned_points" Field.whole
      <*> optional "" j "make_active" false Field.boolean

/-- A moment to be stored. -/
structure MomentForm where
  id : Option String
  childId : String
  behaviorId : String
  time : Timestamp
  points : Option Int
  rewardId : Option String
  loggedBy : Option String
  note : Option String
  deriving Repr

def MomentForm.check (place : String) : Json → Checked MomentForm :=
  object place fun j =>
    MomentForm.mk
      <$> nullable place j "id" Field.id
      <*> required place j "child_id" Field.id
      <*> required place j "behavior_type_id" Field.id
      <*> required place j "timestamp" Field.time
      <*> nullable place j "points_applied" Field.whole
      <*> nullable place j "reward_id" Field.id
      <*> nullable place j "logged_by" (Field.textUpTo 64)
      <*> nullable place j "note" (Field.textUpTo 512)

/-- The moments of a batch; how many there may be is not checked here. -/
def checkBatch : Json → Checked (List MomentForm) :=
  object "" fun j =>
    match j.member? "items" with
    | none => .bad [⟨"items", .missing⟩]
    | some (.arr xs) => Checked.items "items" MomentForm.check xs
    | some _ => .bad [⟨"items", .notAList⟩]

/-! ## Displayed cards -/

/-- A card that was on screen. -/
structure DisplayedCard where
  id : Option WideText
  templateId : String
  /-- How long it was visible; a card without it counts as seen. -/
  visibleSeconds : Option Binary64
  interacted : Bool
  deriving Repr

def DisplayedCard.check (place : String) : Json → Checked DisplayedCard :=
  object place fun j =>
    DisplayedCard.mk
      <$> nullable place j "id" Field.wideText
      <*> required place j "template_id" Field.id
      <*> nullable place j "visible_seconds" (Field.realWithin 0 86400)
      <*> optional place j "interacted" false Field.boolean

/-- The most cards of one report. -/
def maxDisplayed : Nat := 50

/-- The cards of a report: at least one, and not too many. The items of a list
that is too long are not looked at. -/
def checkCards (j : Json) : Checked (List DisplayedCard) :=
  match j.member? "cards" with
  | none => .bad [⟨"cards", .missing⟩]
  | some (.arr xs) =>
    if maxDisplayed < xs.length then .bad [⟨"cards", .listTooLong maxDisplayed xs.length⟩]
    else if xs.isEmpty then .bad [⟨"cards", .emptyList⟩]
    else Checked.items "cards" DisplayedCard.check xs
  | some _ => .bad [⟨"cards", .notAList⟩]

structure DisplayedForm where
  cards : List DisplayedCard
  time : Option Instant
  deriving Repr

def DisplayedForm.check : Json → Checked DisplayedForm :=
  object "" fun j =>
    DisplayedForm.mk <$> checkCards j <*> nullable "" j "at" Field.supportedTime

end MomentInsights.Service
