-- What is divided by. A divisor of zero is a failure, and the detectors never meet it: each
-- quotient stands behind a guard that its divisor passes. One of them is divided by a pace
-- that was rounded, and a goal never has so many days left that the pace it needs is
-- rounded to nothing.
import MomentInsights.Proofs.Nearest
import MomentInsights.Signal.Detect

namespace MomentInsights

open Binary64 (one roundSteps)

/-- What is at least one step is not rounded to nothing. -/
theorem Binary64.roundSteps_pos {num den : Nat} (hden : 0 < den) (h : den ≤ num) :
    0 < roundSteps num den := by
  have hstep := roundSteps_mul_self hden 1
  rw [Nat.mul_one, roundSteps_of_small (by decide)] at hstep
  have hmono := roundSteps_mono hden h
  omega

theorem realQuotient_of_nonzero {y : Binary64} (h : y.isZero = false) (x : Binary64) :
    realQuotient x y = .ok (x / y) := by
  unfold realQuotient
  rw [h]
  rfl

/-! ## The days left -/

/-- The days of the calendar are far fewer than the steps in one. -/
theorem Instant.wholeDaysBetween_le (a b : Instant) : wholeDaysBetween a b ≤ (one : Int) := by
  have hsmall : (a.spanTo b).micros.natAbs < 2 ^ (64 : Nat) := by
    have ha := a.inRange
    have hb := b.inRange
    unfold spanTo
    dsimp only
    omega
  have hdays : completeDays (a.spanTo b).seconds ≤ one := by
    have hrange := Duration.steps_lt_overflow hsmall
    have hmost : Binary64.overflowSteps / (86400 * one) ≤ one := by
      unfold Binary64.overflowSteps one
      decide +kernel
    rw [Duration.seconds_eq hsmall]
    exact Nat.le_trans (Nat.div_le_div_right (Nat.le_of_lt hrange)) hmost
  unfold wholeDaysBetween
  dsimp only
  split <;> omega

theorem Goal.daysRemaining_le {g : Goal} {now : Instant} {days : Int}
    (h : g.daysRemaining now = some days) : days ≤ (one : Int) := by
  obtain ⟨due, -, rfl⟩ := Option.map_eq_some_iff.mp h
  exact Int.max_le.mpr ⟨Int.natCast_nonneg _, Instant.wholeDaysBetween_le now due⟩

/-- Behind the first guard of a goal at risk there are days left. -/
theorem pos_of_open {g : Goal} {days : Int} (h : ¬ (!g.isActive || days ≤ 0) = true) :
    0 < days := by
  rw [Bool.or_eq_true, decide_eq_true_iff] at h
  omega

/-- A list that is not empty has a length to divide by. -/
theorem length_pos_of_some {es : List Event} (h : ¬ es.isEmpty = true) : 0 < es.length := by
  rw [List.isEmpty_iff] at h
  exact List.length_pos_of_ne_nil h

/-- Points that are missing, spread over the days left, are a pace that is not zero. -/
theorem isZero_pace {needed days : Int} {pace : Binary64} (hneeded : 0 < needed)
    (hdays : days ≤ (one : Int)) (h : quotient needed days.toNat = .ok pace) :
    pace.isZero = false := by
  obtain ⟨hpos, rfl, -⟩ := quotient_eq_ok h
  have hstep : days.toNat ≤ needed.natAbs * one := by
    have hone : one ≤ needed.natAbs * one := Nat.le_mul_of_pos_left _ (by omega)
    omega
  have hrounded := Binary64.roundSteps_pos hpos hstep
  exact beq_eq_false_iff_ne.mpr (Nat.ne_of_gt hrounded)

end MomentInsights
