-- A goal that a child earns points toward, and how it stands at a given time.
import MomentInsights.Time.Instant

namespace MomentInsights

structure Goal where
  id : String
  childId : String
  name : String
  targetPoints : Int
  currentPoints : Int
  created : Instant
  due : Option Instant
  redeemed : Bool
  expired : Bool
  deriving DecidableEq, Repr

/-- A rounded quotient, unless it is past the largest value. -/
def inRange : Binary64 → Except Failure Binary64
  | .infinite _ => .error .quotientTooLarge
  | x => .ok x

/-- The quotient of two whole numbers, rounded once. -/
def quotient (num : Int) (den : Nat) : Except Failure Binary64 :=
  if den = 0 then .error .divisionByZero else inRange (.ofRatio num den)

/-- The quotient of two binary values. -/
def realQuotient (x y : Binary64) : Except Failure Binary64 :=
  if y.isZero then .error .realDivisionByZero else .ok (x / y)

namespace Goal

def hasDeadline (g : Goal) : Bool := g.due.isSome

def isActive (g : Goal) : Bool := !g.redeemed && !g.expired

/-- The points still missing; negative past the target. -/
def pointsNeeded (g : Goal) : Int := g.targetPoints - g.currentPoints

/-- The share of the target that is reached, from 0 to 1. -/
def progress (g : Goal) : Except Failure Binary64 := do
  if g.targetPoints ≤ 0 then return .zero
  let share ← quotient g.currentPoints g.targetPoints.toNat
  return Binary64.max .zero (Binary64.min share (Binary64.ofInt 1))

/-- The whole days until the due date, none below zero. -/
def daysRemaining (g : Goal) (now : Instant) : Option Int :=
  g.due.map fun due => max 0 (Instant.wholeDaysBetween now due)

/-- More than three points a day are missing, with at least a day left. -/
def isAtRisk (g : Goal) (now : Instant) : Except Failure Bool := do
  match g.daysRemaining now with
  | none => return false
  | some left =>
    if left ≤ 0 ∨ g.pointsNeeded ≤ 0 then return false
    let pace ← quotient g.pointsNeeded left.toNat
    return (Binary64.ofInt 3).lt pace

def activeOnly (gs : List Goal) : List Goal := gs.filter isActive

def withDeadlines (gs : List Goal) : List Goal := gs.filter hasDeadline

def atRisk (gs : List Goal) (now : Instant) : Except Failure (List Goal) :=
  gs.filterM (isAtRisk · now)

end Goal

end MomentInsights
