-- The two weeks of a routine. One that forms is counted over the last week. One that slips
-- has its last week weighed against the week before, by rates that are rounded, and the
-- rounded rates tell the two weeks apart as the counts do.
import MomentInsights.Proofs.NoOverflow
import MomentInsights.Proofs.QuietDays

namespace MomentInsights

open Instant (elapsedDays)

/-! ## Half of a rate -/

namespace Binary64

/-- The steps in a half. -/
def half : Nat := 2 ^ 1073

theorem one_eq : one = 2 * half := by
  unfold one half
  decide +kernel

theorem half_big : 7 * 2 ^ 52 ≤ half := by
  unfold half
  decide +kernel

theorem half_pos : 0 < half := Nat.lt_of_lt_of_le (by decide) half_big

theorem le_finite (a b : Nat) : (finite false a).le (finite false b) = decide (a ≤ b) := by
  have hle : (finite false a).le (finite false b) =
      decide (signedSteps false a ≤ signedSteps false b) := rfl
  rw [hle, signedSteps_false, signedSteps_false]
  exact decide_eq_decide.mpr Int.ofNat_le

/-- Half of a value with all its digits, and of nothing. -/
theorem mul_half {num den : Nat} (h : num = 0 ∨ 2 ^ 52 ≤ num / den)
    (hrange : roundSteps (2 * num) den < overflowSteps) :
    finite false (roundSteps (2 * num) den) * finite false half =
      finite false (roundSteps num den) := by
  have hdouble : roundSteps (2 * num) den = 2 * roundSteps num den := by
    rcases h with rfl | hdigits
    · rw [Nat.mul_zero]
      unfold roundSteps nearestEven
      simp
    · exact roundSteps_double hdigits
  have hscale : roundSteps (2 * roundSteps num den * half) one = roundSteps num den := by
    have hproduct : 2 * roundSteps num den * half = 2 * half * roundSteps num den :=
      Nat.mul_right_comm _ _ _
    have hagain := roundSteps_mul_self (Nat.mul_pos Nat.two_pos half_pos) (roundSteps num den)
    rw [one_eq, hproduct, hagain, roundSteps_again]
  have hmul := mul_finite false false (roundSteps (2 * num) den) half
  rw [hmul, hdouble]
  unfold ofSteps
  rw [hscale]
  exact if_pos (by omega)

end Binary64

namespace Detect

open Binary64 (one half roundSteps lastDigit)

/-- Half of the weekly rate of so many events. -/
def halfRate (n : Nat) : Nat := roundSteps (n * half) 7

theorem rateFactor_eq : rateFactor = .finite false half := by
  unfold half
  decide +kernel

theorem weeklyRate_eq {n : Nat} {x : Binary64} (h : weeklyRate n = .ok x) :
    x = .finite false (halfRate (2 * n)) ∧ halfRate (2 * n) < Binary64.overflowSteps := by
  have hsteps : roundSteps ((n : Int).natAbs * one) Window.week.days = halfRate (2 * n) := by
    unfold halfRate
    rw [Int.natAbs_natCast, Binary64.one_eq, ← Nat.mul_assoc, Nat.mul_comm n]
    rfl
  have hnonneg : decide ((n : Int) < 0) = false := decide_eq_false (by omega)
  obtain ⟨-, hx, hrange⟩ := quotient_eq_ok h
  rw [hsteps] at hx hrange
  rw [hnonneg] at hx
  exact ⟨hx, hrange⟩

/-- The rates are compared as the rounded halves are. -/
theorem rate_le_iff {older recent : Nat} {olderRate recentRate : Binary64}
    (holder : weeklyRate older = .ok olderRate) (hrecent : weeklyRate recent = .ok recentRate) :
    (olderRate * rateFactor).le recentRate = true ↔ halfRate older ≤ halfRate (2 * recent) := by
  obtain ⟨rfl, hrange⟩ := weeklyRate_eq holder
  obtain ⟨rfl, -⟩ := weeklyRate_eq hrecent
  have hdigits : older * half = 0 ∨ 2 ^ 52 ≤ older * half / 7 := by
    rcases Nat.eq_zero_or_pos older with rfl | hpos
    · exact Or.inl (Nat.zero_mul _)
    · right
      rw [Nat.le_div_iff_mul_le (by decide), Nat.mul_comm]
      exact Nat.le_trans Binary64.half_big (Nat.le_mul_of_pos_left _ hpos)
  have hhalf : Binary64.finite false (halfRate (2 * older)) * Binary64.finite false half =
      Binary64.finite false (halfRate older) := by
    unfold halfRate at hrange ⊢
    rw [Nat.mul_assoc] at hrange ⊢
    exact Binary64.mul_half hdigits hrange
  rw [rateFactor_eq, hhalf, Binary64.le_finite, decide_eq_true_iff]

theorem halfRate_mono {n m : Nat} (h : n ≤ m) : halfRate n ≤ halfRate m :=
  Binary64.roundSteps_mono (by decide) (Nat.mul_le_mul_right _ h)

/-- Counts that differ have rates that differ, as long as the counts have fewer digits than
a rate keeps. -/
theorem halfRate_strictMono {n m : Nat} (h : n < m) (hm : m < 2 ^ 50) :
    halfRate n < halfRate m := by
  apply Binary64.roundSteps_lt (by decide)
  have hnext : (n + 1) * half ≤ m * half := Nat.mul_le_mul_right _ h
  rw [Nat.add_mul, Nat.one_mul] at hnext
  have hdigit : 7 * lastDigit (m * half) 7 < half := by
    have hbig := Binary64.half_big
    rcases Binary64.lastDigit_cases (m * half) 7 with hstep | hdigits
    · rw [hstep]
      omega
    · rw [Nat.le_div_iff_mul_le (by decide)] at hdigits
      have hcount : m * half < 2 ^ 50 * half := Nat.mul_lt_mul_of_pos_right hm Binary64.half_pos
      omega
  omega

end Detect

/-! ## The two weeks -/

/-- The events of the behavior. -/
def logged (b : Behavior) (es : List Event) : List Event := es.filter fun e => e.behaviorId == b.id

/-- Those of the last seven days, both ends included. -/
def lastWeek (b : Behavior) (now : Instant) (es : List Event) : List Event :=
  Timeline.within (Window.week.start now) now (logged b es)

/-- Those of the seven days before. -/
def weekBefore (b : Behavior) (now : Instant) (es : List Event) : List Event :=
  (logged b es).filter fun e =>
    Window.fortnight.start now ≤ e.time && e.time < Window.week.start now

section Weeks

variable {b : Behavior} {es : List Event} {now : Instant} {e : Event}

theorem mem_within {start stop : Instant} :
    e ∈ Timeline.within start stop es ↔ e ∈ es ∧ start ≤ e.time ∧ e.time ≤ stop := by
  unfold Timeline.within
  rw [List.mem_filter, Bool.and_eq_true, decide_eq_true_iff, decide_eq_true_iff]

theorem behaviorWeek_eq : (Timeline.ofEvents es now).behaviorWeek b.id = lastWeek b now es := by
  rw [Timeline.behaviorWeek_ofEvents]
  exact List.filter_comm _ _ _

theorem behaviorFortnight_eq : (Timeline.ofEvents es now).behaviorFortnight b.id =
    Timeline.within (Window.fortnight.start now) now (logged b es) := by
  rw [Timeline.behaviorFortnight_ofEvents]
  exact List.filter_comm _ _ _

theorem fortnight_start_le (now : Instant) :
    Window.fortnight.start now ≤ Window.week.start now ∧ Window.week.start now ≤ now := by
  have hfortnight := Window.fortnight.start_micros now
  have hweek := Window.week.start_micros now
  have hdays : Window.week.days * Duration.dayMicros ≤
      Window.fortnight.days * Duration.dayMicros := by
    decide
  change (Window.fortnight.start now).micros ≤ (Window.week.start now).micros ∧
    (Window.week.start now).micros ≤ now.micros
  omega

/-- The history that the detector of slipping routines sorts. -/
def history (b : Behavior) (es : List Event) (now : Instant) : List Event :=
  Detect.newestFirst ((Timeline.ofEvents es now).behaviorFortnight b.id)

/-- The history splits into the last week and the one before. -/
theorem history_split (b : Behavior) (es : List Event) (now : Instant) :
    ((history b es now).filter fun e => Window.week.start now ≤ e.time).length =
        (lastWeek b now es).length ∧
      ((history b es now).filter fun e =>
        Window.fortnight.start now ≤ e.time && e.time < Window.week.start now).length =
        (weekBefore b now es).length := by
  have hperm : (history b es now).Perm ((Timeline.ofEvents es now).behaviorFortnight b.id) :=
    List.mergeSort_perm _ _
  have hsplit (part whole : Event → Bool)
      (hpart : ∀ e, (part e && (Window.fortnight.start now ≤ e.time && e.time ≤ now)) = whole e) :
      ((history b es now).filter part).length = ((logged b es).filter whole).length := by
    rw [(hperm.filter part).length_eq, behaviorFortnight_eq]
    unfold Timeline.within
    rw [List.filter_filter]
    exact congrArg List.length (List.filter_congr fun e _ => hpart e)
  obtain ⟨hweeks, hweek⟩ := fortnight_start_le now
  constructor
  · apply hsplit
    intro e
    rw [Bool.eq_iff_iff]
    simp only [Bool.and_eq_true, decide_eq_true_iff]
    constructor
    · rintro ⟨hstart, -, hstop⟩
      exact ⟨hstart, hstop⟩
    · rintro ⟨hstart, hstop⟩
      exact ⟨hstart, Nat.le_trans hweeks hstart, hstop⟩
  · apply hsplit
    intro e
    rw [Bool.eq_iff_iff]
    simp only [Bool.and_eq_true, decide_eq_true_iff]
    constructor
    · rintro ⟨hbefore, -⟩
      exact hbefore
    · rintro ⟨hstart, hstop⟩
      exact ⟨⟨hstart, hstop⟩, hstart, Nat.le_trans (Nat.le_of_lt hstop) hweek⟩

/-! ## Routines that slip -/

/-- The history starts with the last event. -/
theorem latest_of_head {newest : Event} (h : (history b es now).head? = some newest) :
    Latest (logged b es) now newest := by
  have hnewest := newestOf_head? ((Timeline.ofEvents es now).behaviorFortnight b.id)
  unfold history at h
  rw [h, behaviorFortnight_eq] at hnewest
  cases hnewest with
  | some hmem hmax =>
    obtain ⟨hlogged, hstart, hstop⟩ := mem_within.mp hmem
    refine ⟨hlogged, hstart, hstop, ?_⟩
    intro e he hpast
    by_cases hrecent : Window.fortnight.start now ≤ e.time
    · exact hmax e (mem_within.mpr ⟨he, hrecent, hpast⟩)
    · exact Nat.le_trans (Nat.le_of_lt (Nat.not_le.mp hrecent)) hstart

/-- The days since the last event, as the detector counts them. -/
def gap (b : Behavior) (es : List Event) (now : Instant) : Int :=
  match (history b es now).head? with
  | some newest => max 0 (Instant.wholeDaysBetween newest.time now)
  | none => 0

/-- The older rate, as the detector weighs it against the recent one. -/
def RateFell (b : Behavior) (es : List Event) (now : Instant) : Prop :=
  ∃ olderRate, Detect.weeklyRate (weekBefore b now es).length = .ok olderRate ∧
    ∃ recentRate, Detect.weeklyRate (lastWeek b now es).length = .ok recentRate ∧
      ¬ (olderRate * Detect.rateFactor).le recentRate = true

/-- The guards that a slipping routine passes. -/
structure PassesSlipping (b : Behavior) (es : List Event) (now : Instant) : Prop where
  routine : b.isRoutine = true
  established : minEvents ≤ (weekBefore b now es).length
  fell : RateFell b es now
  stopped : Detect.slippingGap ≤ gap b es now

/-- A hit passes the guards and tells the gap, and whatever passes them is a hit. -/
theorem passes_of_hit {s : Signal}
    (h : Hits (Detect.routineSlipping b (Timeline.ofEvents es now)) s) :
    PassesSlipping b es now ∧ s.details.daysSince = some (gap b es now) := by
  obtain ⟨hweek, hbefore⟩ := history_split b es now
  unfold history at hweek hbefore
  have hnow : (Timeline.ofEvents es now).now = now := rfl
  simp only [Detect.routineSlipping, hits_unless, hits_bind, hits_hit, hnow, hweek, hbefore] at h
  obtain ⟨hroutine, -, hestablished, olderRate, holder, recentRate, hrecent, hrate, hgap, rfl⟩ := h
  refine ⟨⟨?_, Nat.not_lt.mp hestablished, ?_, Int.not_lt.mp hgap⟩, rfl⟩
  · simpa using hroutine
  · exact ⟨olderRate, holder, recentRate, hrecent, hrate⟩

theorem hit_of_passes (h : PassesSlipping b es now) :
    ∃ s, Hits (Detect.routineSlipping b (Timeline.ofEvents es now)) s := by
  obtain ⟨hweek, hbefore⟩ := history_split b es now
  have hlength : (weekBefore b now es).length ≤ (history b es now).length := by
    rw [← hbefore]
    exact List.length_filter_le _ _
  unfold history at hweek hbefore hlength
  have hnow : (Timeline.ofEvents es now).now = now := rfl
  simp only [Detect.routineSlipping, hits_unless, hits_bind, hits_hit, hnow, hweek, hbefore]
  obtain ⟨olderRate, holder, recentRate, hrecent, hrate⟩ := h.fell
  refine ⟨_, ?_, ?_, Nat.not_lt.mpr h.established, olderRate, holder, recentRate, hrecent, hrate,
    Int.not_lt.mpr h.stopped, rfl⟩
  · simpa using h.routine
  · exact Nat.not_lt.mpr (Nat.le_trans h.established hlength)

/-! ## The counts decide -/

/-- What a slipping routine that is a hit rests on: a week in which it was there, a last
week with less than half as many events, and some days without any. -/
structure Slips (b : Behavior) (es : List Event) (now : Instant) : Prop where
  routine : b.isRoutine = true
  established : minEvents ≤ (weekBefore b now es).length
  rarer : 2 * (lastWeek b now es).length < (weekBefore b now es).length
  quiet : QuietFor Detect.slippingGap.toNat now (logged b es)

theorem gap_eq {newest : Event} (h : (history b es now).head? = some newest) :
    gap b es now = (elapsedDays newest.time now : Int) := by
  unfold gap
  rw [h]
  exact (latest_of_head h).days_eq

/-- There is a last event when the week before the last has some. -/
theorem exists_head (h : minEvents ≤ (weekBefore b now es).length) :
    ∃ newest, (history b es now).head? = some newest := by
  obtain ⟨-, hbefore⟩ := history_split b es now
  cases hhistory : history b es now with
  | nil =>
    rw [hhistory] at hbefore
    rw [← hbefore] at h
    change minEvents ≤ 0 at h
    exact absurd h (by decide)
  | cons newest rest => exact ⟨newest, rfl⟩

/-- However many events there are, a hit slips, and it counts the days since the last one. -/
theorem slips_of_hit {s : Signal}
    (h : Hits (Detect.routineSlipping b (Timeline.ofEvents es now)) s) :
    Slips b es now ∧ ∃ newest, Latest (logged b es) now newest ∧
      s.details.daysSince = some (elapsedDays newest.time now : Int) := by
  obtain ⟨⟨hroutine, hestablished, ⟨olderRate, holder, recentRate, hrecent, hrate⟩, hgap⟩,
    hcount⟩ := passes_of_hit h
  obtain ⟨newest, hhead⟩ := exists_head hestablished
  have hlatest := latest_of_head hhead
  rw [gap_eq hhead] at hgap hcount
  refine ⟨⟨hroutine, hestablished, ?_, ?_⟩, newest, hlatest, hcount⟩
  · apply Nat.not_le.mp
    intro hle
    exact hrate ((Detect.rate_le_iff holder hrecent).mpr (Detect.halfRate_mono hle))
  · exact (hlatest.quietFor_iff _).mpr (Int.toNat_le.mpr hgap)

/-- With fewer events than the rates have digits for, whatever slips is a hit. -/
theorem hit_of_slips (hcount : es.length < 2 ^ 50) (h : Slips b es now) :
    ∃ s, Hits (Detect.routineSlipping b (Timeline.ofEvents es now)) s := by
  have hlogged (keep : Event → Bool) : ((logged b es).filter keep).length < 2 ^ 50 :=
    Nat.lt_of_le_of_lt (List.filter_sublist.trans List.filter_sublist).length_le hcount
  have hrate (keep : Event → Bool) :
      ∃ rate, Detect.weeklyRate ((logged b es).filter keep).length = .ok rate := by
    apply quotient_total _ (by decide)
    rw [Int.natAbs_natCast]
    exact Nat.le_trans (Nat.le_of_lt (hlogged keep)) (by decide +kernel)
  obtain ⟨olderRate, holder⟩ := hrate fun e =>
    Window.fortnight.start now ≤ e.time && e.time < Window.week.start now
  obtain ⟨recentRate, hrecent⟩ := hrate fun e => Window.week.start now ≤ e.time && e.time ≤ now
  obtain ⟨newest, hhead⟩ := exists_head h.established
  apply hit_of_passes
  refine ⟨h.routine, h.established, ⟨olderRate, holder, recentRate, hrecent, ?_⟩, ?_⟩
  · rw [Detect.rate_le_iff holder hrecent]
    exact Nat.not_le.mpr (Detect.halfRate_strictMono h.rarer (hlogged _))
  · rw [gap_eq hhead]
    exact Int.toNat_le.mp (((latest_of_head hhead).quietFor_iff _).mp h.quiet)

/-! ## Routines that form -/

theorem triggered_unless {kind : SignalKind} {reason : String} {c : Prop} [Decidable c]
    {rest : Signal} :
    (if c then Signal.miss kind reason else rest).triggered = true ↔
      ¬ c ∧ rest.triggered = true := by
  by_cases hc : c
  · rw [if_pos hc]
    constructor
    · intro h
      cases h
    · intro h
      exact absurd hc h.1
  · rw [if_neg hc]
    exact (and_iff_right hc).symm

/-- The last week is part of the last two. -/
theorem lastWeek_length_le (b : Behavior) (es : List Event) (now : Instant) :
    (lastWeek b now es).length ≤ ((Timeline.ofEvents es now).behaviorFortnight b.id).length := by
  obtain ⟨hweek, -⟩ := history_split b es now
  have hlength : (history b es now).length =
      ((Timeline.ofEvents es now).behaviorFortnight b.id).length := List.length_mergeSort _
  rw [← hweek, ← hlength]
  exact List.length_filter_le _ _

/-- A routine forms when it was there often enough in the last week, on enough days. -/
theorem routineForming_triggered :
    (Detect.routineForming b (Timeline.ofEvents es now)).triggered = true ↔
      b.isRoutine = true ∧ Detect.formingEvents ≤ (lastWeek b now es).length ∧
        Detect.formingDays ≤ (Detect.distinctDays (lastWeek b now es)).length := by
  have hlength := lastWeek_length_le b es now
  have hfewest : minEvents ≤ Detect.formingEvents := by decide
  simp only [Detect.routineForming, triggered_unless, behaviorWeek_eq]
  constructor
  · rintro ⟨hroutine, -, henough, hdays, -⟩
    exact ⟨by simpa using hroutine, Nat.not_lt.mp henough, Nat.not_lt.mp hdays⟩
  · rintro ⟨hroutine, henough, hdays⟩
    refine ⟨by simpa using hroutine, ?_, Nat.not_lt.mpr henough, Nat.not_lt.mpr hdays, rfl⟩
    exact Nat.not_lt.mpr (Nat.le_trans hfewest (Nat.le_trans henough hlength))

end Weeks

end MomentInsights
