-- The look-back windows of the analysis, and the fixed numbers of the engine.
import MomentInsights.Time.Instant

namespace MomentInsights

inductive Window where
  | week
  | fortnight
  | month
  deriving DecidableEq, Repr

namespace Window

def days : Window → Nat
  | week => 7
  | fortnight => 14
  | month => 30

def ofDays? (n : Int) : Option Window :=
  if n = 7 then some week
  else if n = 14 then some fortnight
  else if n = 30 then some month
  else none

def duration (w : Window) : Duration := Duration.days w.days

/-- Where the window that ends at `now` starts; both ends belong to it. -/
def start (w : Window) (now : Instant) : Instant := now.back w.duration

end Window

/-! ## Fixed numbers -/

/-- The fewest events that an insight rests on. -/
def minEvents : Nat := 3

/-- The fewest events that a goal-at-risk insight rests on. -/
def minEventsAtRisk : Nat := 2

/-- How many cards are shown at most. -/
def maxCards : Nat := 6

/-- How long a card lives. -/
def cardLifetime : Duration := Duration.days 1

end MomentInsights
