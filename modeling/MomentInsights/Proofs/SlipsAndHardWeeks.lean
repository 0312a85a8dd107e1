-- When a routine is told as slipping and when a week is told as hard. The detectors compare
-- rates and ratios that are rounded, and up to some huge number of events the rounded values
-- compare as the counts do. So both are decided by whole numbers.
import MomentInsights.Proofs.StallsAndHabits

namespace MomentInsights

open Binary64 (one roundSteps lastDigit)

/-! ## Slips -/

/-- The events of the behavior in the week before the last. -/
def Behavior.loggedBefore (b : Behavior) (now : Instant) (es : List Event) : List Event :=
  es.filter fun e => e.behaviorId == b.id &&
    (now.micros ≤ e.time.micros + 14 * Duration.dayMicros &&
      e.time.micros + 7 * Duration.dayMicros < now.micros)

/-- The behavior is a routine that was there three times in the week before the last, less than
half as often in the last week, and not at all in the last three days. -/
structure Behavior.HasSlipped (b : Behavior) (es : List Event) (now : Instant) : Prop where
  routine : b.category = .routine
  established : 3 ≤ (b.loggedBefore now es).length
  rarer : 2 * (b.loggedIn 7 now es).length < (b.loggedBefore now es).length
  quiet : ∀ e ∈ es, e.behaviorId = b.id →
    ¬ (now.micros < e.time.micros + 3 * Duration.dayMicros ∧ e.time.micros ≤ now.micros)

section Slips

variable {b : Behavior} {es : List Event} {now : Instant}

theorem weekBefore_eq (b : Behavior) (es : List Event) (now : Instant) :
    weekBefore b now es = b.loggedBefore now es := by
  have hfortnight : (Window.fortnight.start now).micros = now.micros - 14 * Duration.dayMicros :=
    Window.fortnight.start_micros now
  have hweek : (Window.week.start now).micros = now.micros - 7 * Duration.dayMicros :=
    Window.week.start_micros now
  unfold weekBefore logged Behavior.loggedBefore
  rw [List.filter_filter]
  apply List.filter_congr
  intro e _
  have hfirst : Window.fortnight.start now ≤ e.time ↔
      now.micros ≤ e.time.micros + 14 * Duration.dayMicros := by
    change (Window.fortnight.start now).micros ≤ e.time.micros ↔ _
    omega
  have hlast : e.time < Window.week.start now ↔
      e.time.micros + 7 * Duration.dayMicros < now.micros := by
    change e.time.micros < (Window.week.start now).micros ↔ _
    omega
  rw [decide_eq_decide.mpr hfirst, decide_eq_decide.mpr hlast, Bool.and_comm]

theorem quietFor_iff : QuietFor Detect.slippingGap.toNat now (logged b es) ↔
    ∀ e ∈ es, e.behaviorId = b.id →
      ¬ (now.micros < e.time.micros + 3 * Duration.dayMicros ∧ e.time.micros ≤ now.micros) := by
  have hgap : Detect.slippingGap.toNat = 3 := rfl
  unfold QuietFor logged
  rw [hgap]
  constructor
  · intro hquiet e he hsame hlate
    have hold := hquiet e (List.mem_filter.mpr ⟨he, beq_iff_eq.mpr hsame⟩) hlate.2
    omega
  · intro hquiet e he hpast
    obtain ⟨hmem, hsame⟩ := List.mem_filter.mp he
    have hpast : e.time.micros ≤ now.micros := hpast
    have hold := hquiet e hmem (beq_iff_eq.mp hsame)
    omega

theorem hasSlipped_iff : b.HasSlipped es now ↔ Slips b es now := by
  constructor
  · intro h
    refine ⟨isRoutine_iff.mpr h.routine, ?_, ?_, quietFor_iff.mpr h.quiet⟩
    · rw [weekBefore_eq]
      exact h.established
    · rw [lastWeek_eq, weekBefore_eq]
      exact h.rarer
  · intro h
    refine ⟨isRoutine_iff.mp h.routine, ?_, ?_, quietFor_iff.mp h.quiet⟩
    · rw [← weekBefore_eq]
      exact h.established
    · rw [← lastWeek_eq, ← weekBefore_eq]
      exact h.rarer

/-- Far more events than a rate has digits for still have quotients in range. -/
theorem length_le_mostEvents (h : es.length < 2 ^ 50) : es.length ≤ mostEvents :=
  Nat.le_trans (Nat.le_of_lt h) (by decide +kernel)

theorem routineSlipping_iff (hcount : es.length < 2 ^ 50) :
    ∃ s, Detect.routineSlipping b (Timeline.ofEvents es now) = .ok s ∧
      (s.triggered = true ↔ b.HasSlipped es now) := by
  obtain ⟨s, hs⟩ := Detect.routineSlipping_total (length_le_mostEvents hcount) b
  refine ⟨s, hs, ?_⟩
  rw [hasSlipped_iff]
  constructor
  · intro htriggered
    exact (slips_of_hit ⟨hs, htriggered⟩).1
  · intro hslips
    obtain ⟨hit, hhit, htriggered⟩ := hit_of_slips hcount hslips
    rw [hs] at hhit
    cases hhit
    exact htriggered

end Slips

/-! ## The ratio -/

namespace Binary64

theorem lt_finite (a b : Nat) : (finite false a).lt (finite false b) = decide (a < b) := by
  have hlt : (finite false a).lt (finite false b) =
      decide (signedSteps false a < signedSteps false b) := rfl
  rw [hlt, signedSteps_false, signedSteps_false]
  exact decide_eq_decide.mpr Int.ofNat_lt

/-- A ratio that is less than one is rounded to less than one, as long as the divisor has fewer
digits than a value keeps. -/
theorem roundSteps_lt_one {c p : Nat} (hp : 0 < p) (hcount : p < 2 ^ 50) :
    roundSteps (c * one) p < one ↔ c < p := by
  have hself := roundSteps_self hp
  constructor
  · intro h
    by_contra hle
    have hmono : roundSteps (p * one) p ≤ roundSteps (c * one) p :=
      roundSteps_mono hp (Nat.mul_le_mul_right _ (Nat.not_lt.mp hle))
    omega
  · intro h
    have hstep : c * one + one ≤ p * one := by
      rw [← Nat.succ_mul]
      exact Nat.mul_le_mul_right _ h
    have hdigit : p * lastDigit (p * one) p < one := by
      have hvalue : p * one / p = one := Nat.mul_div_cancel_left _ hp
      rcases lastDigit_cases (p * one) p with hlast | hdigits
      · have hbig : 2 ^ 50 < one := by
          unfold one
          decide +kernel
        rw [hlast]
        omega
      · rw [hvalue] at hdigits
        have hpos := lastDigit_pos (p * one) p
        have hless := Nat.mul_lt_mul_of_pos_right hcount hpos
        omega
    have hround : roundSteps (c * one) p < roundSteps (p * one) p :=
      roundSteps_lt hp (by omega)
    omega

end Binary64

namespace Detect

theorem challengeThreshold_eq : challengeThreshold = .finite false one := by decide +kernel

/-- The ratio is below the threshold just when there are fewer challenges. -/
theorem ratio_lt_iff {c p : Nat} {ratio : Binary64} (h : quotient c p = .ok ratio)
    (hcount : p < 2 ^ 50) : ratio.lt challengeThreshold = true ↔ c < p := by
  obtain ⟨hp, rfl, -⟩ := quotient_eq_ok h
  have hnonneg : decide ((c : Int) < 0) = false := decide_eq_false (by omega)
  rw [hnonneg, challengeThreshold_eq, Int.natAbs_natCast, Binary64.lt_finite, decide_eq_true_iff,
    Binary64.roundSteps_lt_one hp hcount]

end Detect

/-! ## Hard weeks -/

/-- In the last week there are three events, and as many challenges as good moments or more. -/
structure HardWeek (es : List Event) (now : Instant) : Prop where
  enough : 3 ≤ (es.filter fun e => e.isChallenge && e.inLast 7 now).length +
    (es.filter fun e => e.isPositive && e.inLast 7 now).length
  hard : (es.filter fun e => e.isPositive && e.inLast 7 now).length ≤
    (es.filter fun e => e.isChallenge && e.inLast 7 now).length

/-- The reason that is told only where a week without good moments has too few challenges. -/
def tooFewChallenges : String := "Not enough challenges to qualify"

section HardWeeks

variable {es : List Event} {now : Instant}

theorem hardWeek_iff : HardWeek es now ↔
    minEvents ≤ (Timeline.ofEvents es now).positiveWeek.length +
        (Timeline.ofEvents es now).challengesWeek.length ∧
      (Timeline.ofEvents es now).positiveWeek.length ≤
        (Timeline.ofEvents es now).challengesWeek.length := by
  have hgood : (Timeline.ofEvents es now).positiveWeek =
      es.filter fun e => e.isPositive && e.inLast 7 now :=
    Timeline.within_filter .week now es _
  have hchallenge : (Timeline.ofEvents es now).challengesWeek =
      es.filter fun e => e.isChallenge && e.inLast 7 now :=
    Timeline.within_filter .week now es _
  rw [hgood, hchallenge, Nat.add_comm]
  constructor
  · intro h
    exact ⟨h.enough, h.hard⟩
  · rintro ⟨henough, hhard⟩
    exact ⟨henough, hhard⟩

theorem positiveWeek_length_le :
    (Timeline.ofEvents es now).positiveWeek.length ≤ es.length :=
  (List.filter_sublist.trans List.filter_sublist).length_le

theorem challengesWeek_length_le :
    (Timeline.ofEvents es now).challengesWeek.length ≤ es.length :=
  (List.filter_sublist.trans List.filter_sublist).length_le

/-- A week that has enough events and no good moments has enough challenges. With good moments
the ratio decides, and it is rounded to less than one just when it is less. -/
theorem highChallengeWeek_iff (hcount : es.length < 2 ^ 50) :
    ∃ s, Detect.highChallengeWeek (Timeline.ofEvents es now) = .ok s ∧
      (s.triggered = true ↔ HardWeek es now) ∧ s.explanation ≠ tooFewChallenges := by
  have hless : (Timeline.ofEvents es now).positiveWeek.length < 2 ^ 50 :=
    Nat.lt_of_le_of_lt positiveWeek_length_le hcount
  rw [hardWeek_iff]
  unfold Detect.highChallengeWeek
  dsimp only
  by_cases hfew : (Timeline.ofEvents es now).positiveWeek.length +
      (Timeline.ofEvents es now).challengesWeek.length < minEvents
  · rw [if_pos hfew]
    refine ⟨_, rfl, ?_, longText_ne (by decide) _ _ _ _⟩
    simp [Signal.miss, Nat.not_le.mpr hfew]
  · rw [if_neg hfew]
    have henough := Nat.not_lt.mp hfew
    by_cases hnone : (Timeline.ofEvents es now).positiveWeek.isEmpty = true
    · have hzero : (Timeline.ofEvents es now).positiveWeek.length = 0 := by
        rw [List.isEmpty_iff.mp hnone, List.length_nil]
      have hmany : minEvents ≤ (Timeline.ofEvents es now).challengesWeek.length := by
        rwa [hzero, Nat.zero_add] at henough
      rw [if_pos hnone, if_neg (Nat.not_lt.mpr hmany)]
      refine ⟨_, rfl, ?_, text_ne (by decide) _ _⟩
      simp [Signal.hit, hmany, hzero]
    · obtain ⟨ratio, hratio⟩ := quotient_total
        (length_le_mostDividend (length_le_mostEvents hcount) challengesWeek_length_le)
        (length_pos_of_some hnone)
      have hcompare := Detect.ratio_lt_iff hratio hless
      rw [if_neg hnone, hratio, Outcome.ok_bind]
      by_cases hlow : ratio.lt Detect.challengeThreshold = true
      · rw [if_pos hlow]
        refine ⟨_, rfl, ?_, text_ne (by decide) _ _⟩
        simp [Signal.miss, hcompare.mp hlow]
      · rw [if_neg hlow]
        refine ⟨_, rfl, ?_, longText_ne (by decide) _ _ _ _⟩
        have hhard := Nat.not_lt.mp fun hless => hlow (hcompare.mpr hless)
        simp [Signal.hit, henough, hhard]

end HardWeeks

/-! ## Both -/

/-- Below some huge number of events, a routine is told as slipping just when it has slipped,
and a week is told as hard just when it is hard. A week never has too few challenges once it
has enough events and none of them is good. -/
theorem slips_and_hard_weeks {es : List Event} (hcount : es.length < 2 ^ 50) (b : Behavior)
    (now : Instant) :
    (∃ s, Detect.routineSlipping b (Timeline.ofEvents es now) = .ok s ∧
        (s.triggered = true ↔ b.HasSlipped es now)) ∧
      ∃ s, Detect.highChallengeWeek (Timeline.ofEvents es now) = .ok s ∧
        (s.triggered = true ↔ HardWeek es now) ∧ s.explanation ≠ tooFewChallenges :=
  ⟨routineSlipping_iff hcount, highChallengeWeek_iff hcount⟩

/-- Three quarrels and a good moment in the week up to the twentieth day. -/
def quarrels : List Event :=
  ((brushed [28, 30, 32]).map fun e => { e with category := .negative }) ++
    (brushed [34]).map fun e => { e with category := .positive }

/-- The brushings slip, and their week has no challenges and is not hard. The week of the
quarrels is. -/
theorem slips_and_hard_weeks_brushings :
    (brushings.length < 2 ^ 50 ∧
      (∃ s, Detect.routineSlipping brushing (Timeline.ofEvents brushings twentiethDay) = .ok s ∧
        s.triggered = true) ∧
      ∃ s, Detect.highChallengeWeek (Timeline.ofEvents brushings twentiethDay) = .ok s ∧
        s.triggered = false) ∧
    quarrels.length < 2 ^ 50 ∧
      ∃ s, Detect.highChallengeWeek (Timeline.ofEvents quarrels twentiethDay) = .ok s ∧
        s.triggered = true := by
  have hcount : brushings.length < 2 ^ 50 := by decide
  have hcount' : quarrels.length < 2 ^ 50 := by decide
  obtain ⟨⟨s, hs, hslips⟩, week, hweek, hhard, -⟩ :=
    slips_and_hard_weeks hcount brushing twentiethDay
  obtain ⟨-, week', hweek', hhard', -⟩ := slips_and_hard_weeks hcount' brushing twentiethDay
  have hslipped : brushing.HasSlipped brushings twentiethDay :=
    hasSlipped_iff.mpr brushings_form_and_slip.slips
  have heasy : ¬ HardWeek brushings twentiethDay := by
    rintro ⟨-, hmore⟩
    exact absurd hmore (by decide +kernel)
  have hquarrels : HardWeek quarrels twentiethDay := by
    constructor <;> decide +kernel
  refine ⟨⟨hcount, ⟨s, hs, hslips.mpr hslipped⟩, week, hweek, ?_⟩, hcount', week', hweek',
    hhard'.mpr hquarrels⟩
  exact Bool.eq_false_iff.mpr fun htriggered => heasy (hhard.mp htriggered)

end MomentInsights
