-- Cards: what is shown to a parent.
import MomentInsights.Card.Action
import MomentInsights.Card.StableId
import MomentInsights.Time.Instant

namespace MomentInsights

/-- The keys of a card's texts in other languages, and the values that fill
them. -/
structure Localized where
  titleKey : String
  oneLinerKey : String
  stepsKeys : List String
  whyKey : String
  args : List (String × String)
  deriving DecidableEq, Repr

namespace Localized

/-- The keys of a template with that many steps. -/
def ofTemplate (templateId : String) (steps : Nat) (args : List (String × String)) : Localized :=
  let stem := s!"insights.{templateId}"
  { titleKey := s!"{stem}.title"
    oneLinerKey := s!"{stem}.one_liner"
    stepsKeys := (List.range steps).map fun i => s!"{stem}.step_{i + 1}"
    whyKey := s!"{stem}.why"
    args }

end Localized

structure Card where
  id : String
  childId : String
  priority : Int
  title : String
  oneLiner : String
  steps : List String
  why : String
  eventIds : List String
  action : Action
  expires : Instant
  templateId : String
  windowDays : Int
  entityId : Option String
  localized : Option Localized
  deriving DecidableEq, Repr

namespace Card

/-- What the card's id is made from. -/
def stableKey (c : Card) : String :=
  StableId.key c.templateId c.childId c.entityId c.windowDays

/-- The pair that a cooldown is kept for. -/
def shownPair (c : Card) : String × String := (c.templateId, c.childId)

end Card

end MomentInsights
