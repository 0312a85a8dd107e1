-- Which cards are shown, and in which order. Each filter gives the cards that
-- it drops beside those that it keeps, so that a report can explain both.
import MomentInsights.Card.Basic
import MomentInsights.Cooldown.Store
import MomentInsights.Signal

namespace MomentInsights

/-! ## Dropped cards -/

inductive DropReason where
  | evidenceInvalid
  | cooldownActive
  | riskRail
  | improvementRail
  | rankingCutoff
  deriving DecidableEq, Repr

namespace DropReason

def name : DropReason → String
  | evidenceInvalid => "evidenceInvalid"
  | cooldownActive => "cooldownActive"
  | riskRail => "safetyRailRisk"
  | improvementRail => "safetyRailImprovement"
  | rankingCutoff => "rankingCutoff"

/-- The reason in words. -/
def label : DropReason → String
  | evidenceInvalid => "Evidence Invalid"
  | cooldownActive => "Cooldown Active"
  | riskRail => "Safety Rail: Max Risk Cards"
  | improvementRail => "Safety Rail: Max Improvement Cards"
  | rankingCutoff => "Below Ranking Cutoff"

def all : List DropReason :=
  [evidenceInvalid, cooldownActive, riskRail, improvementRail, rankingCutoff]

end DropReason

structure Dropped where
  card : Card
  reason : DropReason
  details : String
  deriving DecidableEq, Repr

namespace Ranking

/-! ## Order -/

/-- Higher priority first, then the shorter window, then more evidence, then the
template's id, then the card's own. -/
def rank (a b : Card) : Ordering :=
  (compare b.priority a.priority).then <|
    (compare a.windowDays b.windowDays).then <|
      (compare b.eventIds.length a.eventIds.length).then <|
        (compare a.templateId b.templateId).then (compare a.id b.id)

/-- `a` may stand before `b`. -/
def rankLE (a b : Card) : Bool := (rank a b).isLE

/-- The cards in rank order; cards of one rank keep their order. -/
def sort (cards : List Card) : List Card := cards.mergeSort rankLE

/-! ## Safety rails -/

inductive Rail where
  | risk
  | improvement
  | neutral
  deriving DecidableEq, Repr

namespace Rail

def name : Rail → String
  | risk => "risk"
  | improvement => "improvement"
  | neutral => "neutral"

def ofSignal : SignalKind → Rail
  | .goalAtRisk | .highChallengeWeek => risk
  | .goalStalled | .routineForming | .routineSlipping => improvement

/-- The rail of a template; a template without a signal has none. -/
def ofTemplate (templateId : String) : Rail :=
  match SignalKind.ofName? templateId with
  | some k => ofSignal k
  | none => neutral

end Rail

def maxRisk : Nat := 1

def maxImprovement : Nat := 2

/-- The drop of a card for its rail. -/
def riskDrop (c : Card) : Dropped :=
  ⟨c, .riskRail, s!"Already have {maxRisk} risk card(s)"⟩

def improvementDrop (c : Card) : Dropped :=
  ⟨c, .improvementRail, s!"Already have {maxImprovement} improvement card(s)"⟩

/-- Walks the cards in order with room for some more risk and improvement
cards, and gives the kept and the dropped ones. -/
def walkRails : Nat → Nat → List Card → List Card × List Dropped
  | _, _, [] => ([], [])
  | risk, improvement, c :: cs =>
    match Rail.ofTemplate c.templateId with
    | .risk =>
      match risk with
      | 0 =>
        let (kept, dropped) := walkRails 0 improvement cs
        (kept, riskDrop c :: dropped)
      | risk + 1 =>
        let (kept, dropped) := walkRails risk improvement cs
        (c :: kept, dropped)
    | .improvement =>
      match improvement with
      | 0 =>
        let (kept, dropped) := walkRails risk 0 cs
        (kept, improvementDrop c :: dropped)
      | improvement + 1 =>
        let (kept, dropped) := walkRails risk improvement cs
        (c :: kept, dropped)
    | .neutral =>
      let (kept, dropped) := walkRails risk improvement cs
      (c :: kept, dropped)

/-- At most one risk card and two improvement cards, the first in rank. -/
def safetyRails (cards : List Card) : List Card × List Dropped :=
  walkRails maxRisk maxImprovement (sort cards)

/-! ## Cooldowns -/

/-- The drop of a card whose template rests. -/
def cooldownDrop (c : Card) (ends : Option Instant) : Dropped :=
  let shown := match ends with
    | some e => e.minuteText
    | none => "unknown"
  ⟨c, .cooldownActive, s!"Cooldown ends {shown}"⟩

/-- The cards whose template does not rest, and the others. -/
def withoutCooldown (now : Timestamp) : List Card → Cooldown.Store →
    Except Failure (List Card × List Dropped × Cooldown.Store)
  | [], store => .ok ([], [], store)
  | c :: cs, store =>
    match store.isOnCooldown c.templateId c.childId now with
    | (.error f, _) => .error f
    | (.ok true, store) => do
      let (ends, store) ← store.cooldownEnd c.templateId c.childId
      let (kept, dropped, store) ← withoutCooldown now cs store
      return (kept, cooldownDrop c ends :: dropped, store)
    | (.ok false, store) => do
      let (kept, dropped, store) ← withoutCooldown now cs store
      return (c :: kept, dropped, store)

/-! ## The cut -/

/-- Where a list of `length` is cut. A negative limit counts from the end. -/
def cutPoint (limit : Int) (length : Nat) : Nat :=
  if 0 ≤ limit then limit.toNat else (length + limit).toNat

/-- The first cards in rank, and the drops of the rest. -/
def truncate (cards : List Card) (limit : Int) : List Card × List Dropped :=
  let sorted := sort cards
  let n := cutPoint limit sorted.length
  (sorted.take n,
    (sorted.drop n).map fun c => ⟨c, .rankingCutoff, s!"Exceeded max {limit} cards limit"⟩)

/-- The cards that are not resting, in rank order, as many as the limit allows. -/
def rankAndFilter (cards : List Card) (store : Cooldown.Store) (now : Timestamp)
    (limit : Int) : Except Failure (List Card × Cooldown.Store) := do
  let (available, _, store) ← withoutCooldown now cards store
  return ((truncate available limit).1, store)

/-- Starts the rests of the cards' templates. -/
def recordShown (pairs : List (String × String)) (store : Cooldown.Store) (time : Instant) :
    Except Failure Unit × Cooldown.Store :=
  store.recordMany pairs time

end Ranking

end MomentInsights
