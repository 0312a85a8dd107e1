-- Checking that a card cites enough events, and only events that exist.
import MomentInsights.Card.Basic
import MomentInsights.Card.Template

namespace MomentInsights.Evidence

/-- Why a card's evidence is not accepted. -/
inductive Flaw where
  | tooFew (cited required : Nat) (templateId : String)
  | unknownEvents (ids : List String)
  deriving DecidableEq, Repr

/-- How many unknown events a message names. -/
def shownUnknown : Nat := 3

def Flaw.message : Flaw → String
  | tooFew cited required templateId =>
    s!"Insufficient evidence: {cited} < {required} required for {templateId}"
  | unknownEvents ids =>
    let shown := ", ".intercalate (ids.take shownUnknown)
    let more := if shownUnknown < ids.length then "..." else ""
    s!"Evidence IDs not found in canonical events: {shown}{more}"

/-- The flaw of the card's evidence, if there is one. -/
def flaw? (known : List String) (c : Card) : Option Flaw :=
  let required := Template.minimumEvidence c.templateId
  if c.eventIds.length < required then
    some (.tooFew c.eventIds.length required c.templateId)
  else
    let unknown := c.eventIds.filter (fun id => !known.contains id)
    if unknown.isEmpty then none else some (.unknownEvents unknown)

/-- The cards without a flaw. -/
def valid (known : List String) (cards : List Card) : List Card :=
  cards.filter fun c => (flaw? known c).isNone

/-- The other cards, each with its flaw. -/
def invalid (known : List String) (cards : List Card) : List (Card × Flaw) :=
  cards.filterMap fun c => (flaw? known c).map fun f => (c, f)

/-- A card is accepted just when it cites enough events and only known ones. -/
theorem flaw?_eq_none {known : List String} {c : Card} :
    flaw? known c = none ↔
      Template.minimumEvidence c.templateId ≤ c.eventIds.length ∧ ∀ id ∈ c.eventIds, id ∈ known := by
  simp only [flaw?]
  split
  · simp; omega
  · rename_i h
    simp only [Nat.not_lt] at h
    simp [h]

end MomentInsights.Evidence
