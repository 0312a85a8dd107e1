-- Evaluations that cannot fail. The one thing that fails in an evaluation over readable
-- records is a quotient past the largest value, and with moderate numbers of events and of
-- points there is none.
import MomentInsights.Proofs.CitedEvidence
import MomentInsights.Proofs.Divisors

namespace MomentInsights

-- Sums start at the core library's zero, whatever else is imported.
attribute [local instance (high)] Zero.ofOfNat0

/-! ## Quotients in range -/

namespace Binary64

/-- The first number that is rounded past the largest value: it lies halfway between the
largest value and the next power of two. -/
def pastLargest : Nat := 2 ^ (1024 : Nat) - 2 ^ (970 : Nat)

/-- The weight of the last digit of the largest value, in steps. -/
def largestDigit : Nat := 2 ^ (2045 : Nat)

theorem roundSteps_pastLargest : roundSteps (pastLargest * one) 1 = overflowSteps := by
  unfold pastLargest one overflowSteps
  decide +kernel

theorem double_pastLargest : 2 * (pastLargest * one) + largestDigit = 2 * overflowSteps := by
  unfold pastLargest largestDigit one overflowSteps
  decide +kernel

/-- No value in range has a last digit that weighs more. -/
theorem lastDigit_le {num den : Nat} (h : num / den < overflowSteps) :
    lastDigit num den ≤ largestDigit := by
  have hlog : (num / den).log2 < 2098 := by
    by_cases hzero : num / den = 0
    · rw [hzero]
      decide
    · unfold overflowSteps at h
      exact (Nat.log2_lt hzero).mpr h
  unfold lastDigit largestDigit
  apply Nat.pow_le_pow_right (by decide)
  omega

/-- A quotient is in range just when it lies below the first number past it. -/
theorem roundSteps_lt_overflow {n den : Nat} (hden : 0 < den) :
    roundSteps (n * one) den < overflowSteps ↔ n < pastLargest * den := by
  constructor
  · intro h
    by_contra hlarge
    have hexact := roundSteps_mul_self hden (pastLargest * one)
    rw [roundSteps_pastLargest] at hexact
    have hmono : roundSteps (den * (pastLargest * one)) den ≤ roundSteps (n * one) den := by
      apply roundSteps_mono hden
      rw [← Nat.mul_assoc, Nat.mul_comm den]
      exact Nat.mul_le_mul_right _ (Nat.not_lt.mp hlarge)
    omega
  · intro h
    have hless : n * one < pastLargest * one * den := by
      rw [Nat.mul_right_comm]
      exact Nat.mul_lt_mul_of_pos_right h one_pos
    have hdouble := double_pastLargest
    have hdigit : lastDigit (n * one) den ≤ largestDigit := by
      apply lastDigit_le
      rw [Nat.div_lt_iff_lt_mul hden]
      exact Nat.lt_of_lt_of_le hless (Nat.mul_le_mul_right _ (by omega))
    have hclose := (roundSteps_close hden (n * one)).2
    have hweight : den * lastDigit (n * one) den ≤ den * largestDigit := Nat.mul_le_mul_left _ hdigit
    have hsum : 2 * (pastLargest * one * den) + den * largestDigit = 2 * overflowSteps * den := by
      rw [← hdouble, Nat.add_mul, Nat.mul_assoc 2, Nat.mul_comm den]
    have hsteps : 2 * roundSteps (n * one) den * den < 2 * overflowSteps * den := by
      rw [Nat.mul_assoc 2]
      omega
    have := Nat.lt_of_mul_lt_mul_right hsteps
    omega

end Binary64

theorem quotient_in_range {num : Int} {den : Nat} (hden : 0 < den)
    (h : num.natAbs < Binary64.pastLargest * den) : ∃ x, quotient num den = .ok x := by
  rw [quotient_of_pos hden]
  unfold Binary64.ofRatio Binary64.ofSteps
  rw [if_pos ((Binary64.roundSteps_lt_overflow hden).mpr h)]
  exact ⟨_, rfl⟩

theorem quotient_past {num : Int} {den : Nat} (hden : 0 < den)
    (h : ¬ num.natAbs < Binary64.pastLargest * den) :
    quotient num den = .error .quotientTooLarge := by
  rw [quotient_of_pos hden]
  unfold Binary64.ofRatio Binary64.ofSteps
  rw [if_neg (fun hrange => h ((Binary64.roundSteps_lt_overflow hden).mp hrange))]
  rfl

/-- Quotients of whole numbers up to this one are in range. -/
def mostDividend : Nat := 2 ^ (1022 : Nat)

theorem mostDividend_lt : mostDividend < Binary64.pastLargest := by decide +kernel

theorem quotient_total {num : Int} {den : Nat} (h : num.natAbs ≤ mostDividend) (hden : 0 < den) :
    ∃ x, quotient num den = .ok x :=
  quotient_in_range hden
    (Nat.lt_of_lt_of_le (Nat.lt_of_le_of_lt h mostDividend_lt) (Nat.le_mul_of_pos_right _ hden))

theorem natAbs_sum_le {xs : List Int} {bound : Nat} (h : ∀ x ∈ xs, x.natAbs ≤ bound) :
    xs.sum.natAbs ≤ xs.length * bound := by
  induction xs with
  | nil => simp
  | cons x xs ih =>
    have hfirst := h x List.mem_cons_self
    have hrest := ih fun y hy => h y (List.mem_cons_of_mem x hy)
    have hsum := Int.natAbs_add_le x xs.sum
    rw [List.sum_cons, List.length_cons, Nat.add_mul]
    omega

/-! ## Moderate data -/

/-- The numbers of the goal are moderate. -/
structure Goal.Moderate (g : Goal) : Prop where
  missing : g.pointsNeeded.natAbs ≤ mostDividend
  earned : g.currentPoints.natAbs ≤ mostDividend

/-- So many events are far fewer than a quotient of their points takes to be out of range. -/
def mostEvents : Nat := 2 ^ (900 : Nat)

/-- The most points that so many events have together. -/
def mostPoints : Nat := mostEvents * 2 ^ (63 : Nat)

theorem mostPoints_lt : mostPoints + 100000 < mostDividend := by decide +kernel

theorem natAbs_sum_le_mostPoints {xs : List Int} (hcount : xs.length ≤ mostEvents)
    (hpoints : ∀ x ∈ xs, x.natAbs ≤ 2 ^ (63 : Nat)) : xs.sum.natAbs ≤ mostPoints :=
  Nat.le_trans (natAbs_sum_le hpoints) (Nat.mul_le_mul_right _ hcount)

/-- There are not too many events, and their points fit 64 bits. -/
structure Moderate (es : List Event) : Prop where
  count : es.length ≤ mostEvents
  points : ∀ e ∈ es, e.stars.natAbs ≤ 2 ^ (63 : Nat)

theorem Moderate.sum {es es' : List Event} (h : Moderate es) (hpart : es'.Sublist es) :
    (es'.map Event.stars).sum.natAbs ≤ mostDividend := by
  have hsum : (es'.map Event.stars).sum.natAbs ≤ mostPoints := by
    apply natAbs_sum_le_mostPoints
    · rw [List.length_map]
      exact Nat.le_trans hpart.length_le h.count
    · intro n hn
      obtain ⟨e, he, rfl⟩ := List.mem_map.mp hn
      exact h.points e (hpart.subset he)
  have hmost := mostPoints_lt
  omega

theorem length_le_mostDividend {es es' : List Event} (hcount : es.length ≤ mostEvents)
    (hpart : es'.length ≤ es.length) : (es'.length : Int).natAbs ≤ mostDividend := by
  have hmost : mostEvents ≤ mostDividend := by decide +kernel
  rw [Int.natAbs_natCast]
  exact Nat.le_trans hpart (Nat.le_trans hcount hmost)

namespace Goal

variable {g : Goal}

theorem moderate_of_earned (htarget : 0 < g.targetPoints ∧ g.targetPoints ≤ 100000)
    (hearned : g.currentPoints.natAbs ≤ mostPoints) : g.Moderate := by
  have hmost := mostPoints_lt
  constructor
  · unfold pointsNeeded
    omega
  · omega

/-- The points of the goal, earned or lost, are no more times the target than a binary value
can be. -/
def InProportion (g : Goal) : Prop :=
  0 < g.targetPoints → g.currentPoints.natAbs < Binary64.pastLargest * g.targetPoints.toNat

theorem progress_of_inProportion (h : g.InProportion) : ∃ share, g.progress = .ok share := by
  unfold progress
  refine Outcome.unless_total fun htarget => ?_
  have hpos : 0 < g.targetPoints := Int.not_le.mp htarget
  refine Outcome.bind_total (quotient_in_range (by omega) (h hpos)) fun share _ => ?_
  exact ⟨_, rfl⟩

theorem progress_of_not (h : ¬ g.InProportion) : g.progress = .error .quotientTooLarge := by
  obtain ⟨hpos, hlarge⟩ := Classical.not_imp.mp h
  unfold progress
  rw [if_neg (Int.not_le.mpr hpos), quotient_past (by omega) hlarge]
  rfl

/-- Goals with moderate numbers are in proportion. -/
theorem Moderate.inProportion (h : g.Moderate) : g.InProportion := by
  intro htarget
  have hone : Binary64.pastLargest ≤ Binary64.pastLargest * g.targetPoints.toNat :=
    Nat.le_mul_of_pos_right _ (by omega)
  exact Nat.lt_of_lt_of_le (Nat.lt_of_le_of_lt h.earned mostDividend_lt) hone

theorem progress_total (h : g.Moderate) : ∃ x, g.progress = .ok x :=
  progress_of_inProportion h.inProportion

theorem isAtRisk_total (h : g.Moderate) (now : Instant) : ∃ risk, g.isAtRisk now = .ok risk := by
  unfold isAtRisk
  split
  · exact ⟨_, rfl⟩
  · refine Outcome.unless_total fun hleft => ?_
    refine Outcome.bind_total (quotient_total h.missing (by omega)) fun pace _ => ?_
    exact ⟨_, rfl⟩

end Goal

namespace Detect

variable {es : List Event} {now : Instant} {goals : List Goal} {g : Goal}

theorem goalAtRisk_total (h : Moderate es) (hg : g.Moderate) :
    ∃ s, goalAtRisk g (Timeline.ofEvents es now) = .ok s := by
  have hpoints : ((Timeline.ofEvents es now).positiveWeek.map Event.stars).sum.natAbs ≤
      mostDividend :=
    h.sum (List.filter_sublist.trans List.filter_sublist)
  unfold goalAtRisk
  dsimp only
  split
  · exact ⟨_, rfl⟩
  · rename_i days hdays
    refine Outcome.unless_total fun hopen => ?_
    have hpos : 0 < days := pos_of_open hopen
    refine Outcome.unless_total fun _ => ?_
    refine Outcome.unless_total fun hneeded => ?_
    refine Outcome.bind_total (quotient_total hg.missing (by omega)) fun paceNeeded hpace => ?_
    refine Outcome.bind_total (quotient_total hpoints (by decide)) fun pace _ => ?_
    refine Outcome.unless_total fun _ => ?_
    rw [realQuotient_of_nonzero (isZero_pace (by omega) (Goal.daysRemaining_le hdays) hpace),
      Outcome.ok_bind]
    refine Outcome.bind_total (Goal.progress_total hg) fun progress _ => ?_
    exact ⟨_, rfl⟩

theorem goalStalled_total (hg : g.Moderate) (t : Timeline) : ∃ s, goalStalled g t = .ok s := by
  unfold goalStalled
  dsimp only
  refine Outcome.unless_total fun _ => ?_
  refine Outcome.unless_total fun _ => ?_
  refine Outcome.unless_total fun _ => ?_
  split
  · exact ⟨_, rfl⟩
  · refine Outcome.bind_total (Goal.progress_total hg) fun progress _ => ?_
    exact ⟨_, rfl⟩

theorem routineSlipping_total (hcount : es.length ≤ mostEvents) (b : Behavior) :
    ∃ s, routineSlipping b (Timeline.ofEvents es now) = .ok s := by
  have hhistory : (newestFirst ((Timeline.ofEvents es now).behaviorFortnight b.id)).length ≤
      es.length := by
    unfold newestFirst
    rw [List.length_mergeSort, Timeline.behaviorFortnight_ofEvents]
    exact (List.filter_sublist.trans List.filter_sublist).length_le
  have hrate (keep : Event → Bool) : ∃ rate, weeklyRate ((newestFirst
      ((Timeline.ofEvents es now).behaviorFortnight b.id)).filter keep).length = .ok rate :=
    quotient_total (length_le_mostDividend hcount
      (Nat.le_trans (List.length_filter_le _ _) hhistory)) (by decide)
  unfold routineSlipping
  dsimp only
  refine Outcome.unless_total fun _ => ?_
  refine Outcome.unless_total fun _ => ?_
  refine Outcome.unless_total fun _ => ?_
  refine Outcome.bind_total (hrate _) fun olderRate _ => ?_
  refine Outcome.bind_total (hrate _) fun recentRate _ => ?_
  refine Outcome.unless_total fun _ => ?_
  refine Outcome.unless_total fun _ => ?_
  exact ⟨_, rfl⟩

theorem highChallengeWeek_total (hcount : es.length ≤ mostEvents) :
    ∃ s, highChallengeWeek (Timeline.ofEvents es now) = .ok s := by
  have hchallenges : (Timeline.ofEvents es now).challengesWeek.length ≤ es.length :=
    (List.filter_sublist.trans List.filter_sublist).length_le
  unfold highChallengeWeek
  dsimp only
  refine Outcome.unless_total fun _ => ?_
  split
  · refine Outcome.unless_total fun _ => ?_
    exact ⟨_, rfl⟩
  · rename_i hsome
    refine Outcome.bind_total (quotient_total (length_le_mostDividend hcount hchallenges)
      (length_pos_of_some hsome)) fun ratio _ => ?_
    refine Outcome.unless_total fun _ => ?_
    exact ⟨_, rfl⟩

theorem all_total (h : Moderate es) (hgoals : ∀ g ∈ goals, g.Moderate) (routines : List Behavior) :
    ∃ signals, all goals routines (Timeline.ofEvents es now) = .ok signals := by
  have hofGoal : ∀ g ∈ Goal.activeOnly goals,
      ∃ signals, ofGoal (Timeline.ofEvents es now) g = .ok signals := by
    intro g hg
    have hmoderate := hgoals g (List.mem_of_mem_filter hg)
    refine Outcome.bind_total (goalAtRisk_total h hmoderate) fun risk _ => ?_
    refine Outcome.bind_total (goalStalled_total hmoderate _) fun stalled _ => ?_
    exact ⟨_, rfl⟩
  have hofRoutine : ∀ b ∈ routines,
      ∃ signals, ofRoutine (Timeline.ofEvents es now) b = .ok signals := by
    intro b _
    refine Outcome.bind_total (routineSlipping_total h.count b) fun slipping _ => ?_
    exact ⟨_, rfl⟩
  refine Outcome.bind_total (Outcome.mapM_total hofGoal) fun ofGoals _ => ?_
  refine Outcome.bind_total (Outcome.mapM_total hofRoutine) fun ofRoutines _ => ?_
  refine Outcome.bind_total (highChallengeWeek_total h.count) fun week _ => ?_
  exact ⟨_, rfl⟩

end Detect

/-! ## Evaluations -/

namespace Engine

open Cooldown (Store Record)

variable {src : Source} {store store' store'' : Store} {rs : List Record} {childId : String}
  {r : Report}

theorem statsOf_total {goals : List Goal} (hgoals : ∀ g ∈ goals, g.Moderate) (t : Timeline)
    (routines : List Behavior) : ∃ stats, statsOf t goals routines = .ok stats := by
  have hrisk : ∃ risks, Goal.atRisk (Goal.activeOnly goals) t.now = .ok risks := by
    apply Outcome.filterM_total
    intro g hg
    exact Goal.isAtRisk_total (hgoals g (List.mem_of_mem_filter hg)) t.now
  refine Outcome.bind_total hrisk fun risks _ => ?_
  exact ⟨_, rfl⟩

/-- Readable records and moderate data always give a report. -/
theorem run_total (hrecords : store.records = .ok (rs, store'))
    (hevents : Moderate (src.events childId)) (hgoals : ∀ g ∈ src.goals childId, g.Moderate)
    (now : Instant) : ∃ found, run src store childId now = .ok found := by
  cases hchild : src.child childId with
  | none =>
    unfold run
    rw [hchild]
    exact ⟨_, rfl⟩
  | some child =>
    have hsurvey : ∃ found, survey src store childId child now = .ok found := by
      refine Outcome.bind_total (Detect.all_total hevents hgoals src.routines) fun signals _ => ?_
      refine Outcome.bind_total ⟨_, Store.active_of_records hrecords now⟩ fun active _ => ?_
      refine Outcome.bind_total (statsOf_total hgoals _ src.routines) fun stats _ => ?_
      exact ⟨_, rfl⟩
    obtain ⟨⟨report, read⟩, hsurvey⟩ := hsurvey
    by_cases hfew : (Timeline.ofEvents (src.events childId) now).fortnight.length < minEvents
    · rw [run_of_child hchild, hsurvey, Outcome.ok_bind, finish_few hfew]
      exact ⟨_, rfl⟩
    · obtain ⟨r, -, hrun, -⟩ := run_of_survey hchild (Nat.not_lt.mp hfew) hsurvey
      exact ⟨_, hrun⟩

/-- What a report tells of cooldowns it takes from the records. -/
theorem run_cooldowns (hrecords : store.records = .ok (rs, store')) {now : Instant}
    (h : run src store childId now = .ok (r, store'')) :
    r.cooldowns ⊆ Store.activeOf store.periods rs now := by
  cases hchild : src.child childId with
  | none =>
    unfold run at h
    rw [hchild] at h
    cases h
    exact List.nil_subset _
  | some child =>
    rw [run_of_child hchild] at h
    obtain ⟨⟨report, read⟩, hsurvey, h⟩ := Outcome.bind_eq_ok.mp h
    have hreport : report.cooldowns ⊆ Store.activeOf store.periods rs now := by
      obtain ⟨signals, -, hsurvey⟩ := Outcome.bind_eq_ok.mp hsurvey
      obtain ⟨active, hactive, hsurvey⟩ := Outcome.bind_eq_ok.mp hsurvey
      obtain ⟨stats, -, hsurvey⟩ := Outcome.bind_eq_ok.mp hsurvey
      cases hsurvey
      cases (Store.active_of_records hrecords now).symm.trans hactive
      exact List.filter_subset_self _
    have hsame : r.cooldowns = report.cooldowns := by
      by_cases hfew : (Timeline.ofEvents (src.events childId) now).fortnight.length < minEvents
      · rw [finish_few hfew] at h
        cases h
        rfl
      · rw [finish_enough (Nat.not_lt.mp hfew)] at h
        obtain ⟨built, -, h⟩ := Outcome.bind_eq_ok.mp h
        obtain ⟨available, -, h⟩ := Outcome.bind_eq_ok.mp h
        cases h
        rfl
    rw [hsame]
    exact hreport

end Engine

end MomentInsights
