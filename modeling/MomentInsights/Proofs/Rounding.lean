-- Bounds on rounded values. A rounded value is at most twice as large as the
-- exact one, so that the progress of a goal always has a percentage.
import MomentInsights.Card.Variables
import MomentInsights.Goal
import MomentInsights.Proofs.Outcome

namespace MomentInsights

namespace Binary64

/-! ## Rounding up is at most doubling -/

theorem nearestEven_le (num den : Nat) : nearestEven num den ≤ num / den + 1 := by
  unfold nearestEven
  dsimp only
  split
  · omega
  · split
    · omega
    · split <;> omega

theorem roundSteps_le (num den : Nat) : roundSteps num den ≤ 2 * (num / den) + 1 := by
  unfold roundSteps
  dsimp only
  generalize hdropped : 2 ^ ((num / den).log2 + 1 - 53) = dropped
  have hsmall : dropped ≤ num / den + 1 := by
    by_cases hq : num / den = 0
    · rw [← hdropped, hq]
      decide
    · have hlog := Nat.log2_self_le hq
      have hpow : 2 ^ ((num / den).log2 + 1 - 53) ≤ 2 ^ (num / den).log2 :=
        Nat.pow_le_pow_right (by decide) (by omega)
      omega
  have hsteps : num / (den * dropped) * dropped ≤ num / den := by
    rw [← Nat.div_div_eq_div_mul]
    exact Nat.div_mul_le_self _ _
  calc nearestEven num (den * dropped) * dropped
      ≤ (num / (den * dropped) + 1) * dropped := Nat.mul_le_mul_right _ (nearestEven_le _ _)
    _ = num / (den * dropped) * dropped + dropped := by rw [Nat.add_mul, Nat.one_mul]
    _ ≤ 2 * (num / den) + 1 := by omega

/-! ## Values that are finite -/

theorem signedSteps_false (steps : Nat) : signedSteps false steps = steps := rfl

theorem signedSteps_true (steps : Nat) : signedSteps true steps = -steps := rfl

/-- Values of up to a million are far from the end of the range. -/
theorem ofSteps_eq (negative : Bool) {num den : Nat} (h : num / den ≤ 1000000 * one) :
    ofSteps negative num den = finite negative (roundSteps num den) := by
  have hround := roundSteps_le num den
  have hrange : 2 * (1000000 * one) + 1 < overflowSteps := by
    unfold one overflowSteps
    decide +kernel
  unfold ofSteps
  rw [if_pos (by omega)]

theorem ofSteps_finite (negative : Bool) {num den : Nat} (h : num / den ≤ 1000000 * one) :
    ∃ steps ≤ 2 * (num / den) + 1, ofSteps negative num den = finite negative steps :=
  ⟨roundSteps num den, roundSteps_le num den, ofSteps_eq negative h⟩

theorem mul_finite (n m : Bool) (a b : Nat) :
    finite n a * finite m b = ofSteps (n != m) (a * b) one := by
  change mul (finite n a) (finite m b) = _
  simp only [mul]

theorem ofInt_finite {n : Nat} (h : n ≤ 1000000) :
    ∃ steps ≤ 2 * (n * one) + 1, ofInt n = finite false steps := by
  have hnum : ((n : Int).natAbs * one) / 1 = n * one := by rw [Nat.div_one, Int.natAbs_natCast]
  have hbound : ((n : Int).natAbs * one) / 1 ≤ 1000000 * one := by
    rw [hnum]
    exact Nat.mul_le_mul_right _ h
  have hnonneg : decide ((n : Int) < 0) = false := decide_eq_false (by omega)
  obtain ⟨steps, hle, hsteps⟩ := ofSteps_finite false hbound
  refine ⟨steps, by rwa [hnum] at hle, ?_⟩
  unfold ofInt ofRatio
  rw [hnonneg, hsteps]

section Clamp

variable {steps top : Nat}

theorem clamp_negative (steps top : Nat) :
    Binary64.max .zero (Binary64.min (finite true steps) (finite false top)) = .zero := by
  have htop : lt (finite false top) (finite true steps) = false := by simp [lt, signedSteps]
  have hzero : lt zero (finite true steps) = false := by simp [lt, zero, signedSteps]
  simp [Binary64.max, Binary64.min, htop, hzero]

theorem clamp_below (h : steps ≤ top) :
    Binary64.max .zero (Binary64.min (finite false steps) (finite false top)) =
      finite false steps := by
  have htop : lt (finite false top) (finite false steps) = false := by
    simp [lt, signedSteps, h]
  have hzero : lt zero (finite false steps) = decide (0 < steps) := by
    simp [lt, zero, signedSteps]
  unfold Binary64.max Binary64.min
  rw [htop]
  by_cases hsteps : 0 < steps
  · simp [hzero, hsteps]
  · have hnone : steps = 0 := by omega
    simp [hnone, zero]

theorem clamp_above (h : top ≤ steps) :
    Binary64.max .zero (Binary64.min (finite false steps) (finite false top)) =
      finite false top := by
  have hmin : Binary64.min (finite false steps) (finite false top) =
      Binary64.min (finite false top) (finite false top) := by
    unfold Binary64.min
    rw [ite_self]
    split
    · rfl
    · rename_i hless
      have hsame : steps = top := by
        have hle : steps ≤ top := by simpa [lt, signedSteps] using hless
        omega
      rw [hsame]
  rw [hmin]
  exact clamp_below (Nat.le_refl top)

/-- Between zero and a value of no sign there is no negative value. -/
theorem clamp_finite (negative : Bool) (steps top : Nat) :
    ∃ kept ≤ top, Binary64.max .zero (Binary64.min (finite negative steps) (finite false top)) =
      finite false kept := by
  cases negative with
  | true => exact ⟨0, Nat.zero_le _, clamp_negative steps top⟩
  | false =>
    by_cases h : steps ≤ top
    · exact ⟨steps, h, clamp_below h⟩
    · exact ⟨top, Nat.le_refl _, clamp_above (Nat.le_of_not_le h)⟩

end Clamp

end Binary64

/-! ## Quotients -/

open Binary64 (one roundSteps)

theorem quotient_of_pos {den : Nat} (h : 0 < den) (num : Int) :
    quotient num den = inRange (.ofRatio num den) := if_neg (Nat.ne_of_gt h)

/-- A quotient that is given is the rounded one. Its divisor is not zero. -/
theorem quotient_eq_ok {num : Int} {den : Nat} {x : Binary64} (h : quotient num den = .ok x) :
    0 < den ∧ x = .finite (num < 0) (roundSteps (num.natAbs * one) den) ∧
      roundSteps (num.natAbs * one) den < Binary64.overflowSteps := by
  rcases Nat.eq_zero_or_pos den with rfl | hden
  · cases h
  · rw [quotient_of_pos hden] at h
    unfold Binary64.ofRatio Binary64.ofSteps at h
    dsimp only at h
    split at h
    · rename_i hrange
      exact ⟨hden, (Except.ok.inj h).symm, hrange⟩
    · cases h

/-! ## Progress -/

theorem Goal.progress_finite {g : Goal} {x : Binary64} (h : g.progress = .ok x) :
    ∃ steps ≤ 2 * one + 1, x = .finite false steps := by
  unfold Goal.progress at h
  split at h
  · rw [Outcome.pure_eq_ok, Except.ok.injEq] at h
    exact ⟨0, Nat.zero_le _, h.symm⟩
  · obtain ⟨share, hshare, hx⟩ := Outcome.bind_eq_ok.mp h
    obtain ⟨-, rfl, -⟩ := quotient_eq_ok hshare
    obtain ⟨top, htop, hone⟩ := Binary64.ofInt_finite (n := 1) (by decide)
    have hone : Binary64.ofInt 1 = .finite false top := hone
    obtain ⟨kept, hkept, hclamp⟩ := Binary64.clamp_finite (g.currentPoints < 0)
      (roundSteps (g.currentPoints.natAbs * one) g.targetPoints.toNat) top
    rw [hone, hclamp, Outcome.pure_eq_ok, Except.ok.injEq] at hx
    exact ⟨kept, by omega, hx.symm⟩

theorem product_bound {one steps factor : Nat} (hone : 0 < one) (hsteps : steps ≤ 2 * one + 1)
    (hfactor : factor ≤ 2 * (100 * one) + 1) : steps * factor / one ≤ 1000000 * one := by
  apply Nat.div_le_of_le_mul
  calc steps * factor
      ≤ (3 * one) * (201 * one) := Nat.mul_le_mul (by omega) (by omega)
    _ = 603 * (one * one) := Nat.mul_mul_mul_comm 3 one 201 one
    _ ≤ 1000000 * (one * one) := Nat.mul_le_mul_right _ (by decide)
    _ = one * (1000000 * one) := Nat.mul_left_comm 1000000 one one

theorem Variables.percentage_real (x : Binary64) :
    percentage (.real x) = percent (x * Binary64.ofInt 100) := rfl

/-- The progress of a goal has a percentage. -/
theorem Variables.percentage_finite {steps : Nat} (h : steps ≤ 2 * one + 1) :
    ∃ text, percentage (.real (.finite false steps)) = .ok text := by
  obtain ⟨hundred, hle, hof⟩ := Binary64.ofInt_finite (n := 100) (by decide)
  have hof : Binary64.ofInt 100 = .finite false hundred := hof
  obtain ⟨scaled, -, hscaled⟩ :=
    Binary64.ofSteps_finite false (product_bound Binary64.one_pos h hle)
  have hmul : Binary64.finite false steps * Binary64.ofInt 100 = .finite false scaled := by
    rw [hof, Binary64.mul_finite, bne_self_eq_false, hscaled]
  rw [percentage_real, hmul]
  exact ⟨_, rfl⟩

end MomentInsights
