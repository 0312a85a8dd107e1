-- Which template was shown to which child, and when.
import MomentInsights.Text.Wide
import MomentInsights.Time.Instant

namespace MomentInsights.Cooldown

/-- A record as it is stored. What is stored may name what no string can. -/
structure Record where
  templateId : WideText
  childId : WideText
  shown : Instant
  deriving DecidableEq, Repr

/-- The record of the pair of a template and a child. -/
def Record.ofPair (pair : String × String) (shown : Instant) : Record :=
  ⟨pair.1, pair.2, shown⟩

/-- The record is one of the pair. -/
def Record.isFor (r : Record) (pair : String × String) : Bool :=
  r.templateId == .ofString pair.1 && r.childId == .ofString pair.2

/-- How long a template rests after it was shown, and how long the record is
kept. -/
structure Periods where
  rest : Duration
  retention : Duration
  deriving DecidableEq, Repr

def Periods.standard : Periods := ⟨Duration.days 3, Duration.days 30⟩

/-- The end of the rest that starts at `shown` can be told. -/
def Periods.hasEnd (p : Periods) (shown : Instant) : Bool := (shown.add? p.rest).isSome

/-- When the rest of a record ends. -/
def Periods.endOf (p : Periods) (r : Record) : Instant := r.shown.shift p.rest

/-- A template that rests for a child, and until when. -/
structure Active where
  templateId : WideText
  childId : WideText
  ends : Instant
  deriving DecidableEq, Repr

end MomentInsights.Cooldown
