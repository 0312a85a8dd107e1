-- Two pieces of advice on one routine. That a routine forms is read off its last week
-- alone, and that it slips off both weeks and its last days, so a child may be told both
-- at once: after a good week that followed a better one, when nothing has happened for
-- three days.
import MomentInsights.Proofs.RoutineWeeks

namespace MomentInsights

/-- When a routine both forms and slips: its last week has enough events on enough days,
the week before more than twice as many, and its last days none. -/
structure FormsAndSlips (b : Behavior) (es : List Event) (now : Instant) : Prop where
  routine : b.isRoutine = true
  often : Detect.formingEvents ≤ (lastWeek b now es).length
  days : Detect.formingDays ≤ (Detect.distinctDays (lastWeek b now es)).length
  rarer : 2 * (lastWeek b now es).length < (weekBefore b now es).length
  quiet : QuietFor Detect.slippingGap.toNat now (logged b es)

theorem FormsAndSlips.slips {b : Behavior} {es : List Event} {now : Instant}
    (h : FormsAndSlips b es now) : Slips b es now := by
  refine ⟨h.routine, ?_, h.rarer, h.quiet⟩
  have hfewest : minEvents ≤ 2 * Detect.formingEvents := by decide
  have hdouble := Nat.mul_le_mul_left 2 h.often
  exact Nat.le_trans hfewest (Nat.le_trans hdouble (Nat.le_of_lt h.rarer))

/-! ## A routine that does both -/

def brushing : Behavior :=
  { id := "b1", name := "Brushing", category := .routine, defaultPoints := 1, active := true }

/-- An event at the start of every one of these half days. -/
def brushed (halfDays : List Nat) : List Event :=
  halfDays.map fun n =>
    { id := toString n, childId := "c1", time := Instant.epoch.shift ⟨n * 43200000000⟩,
      category := .routine, stars := 1, behaviorId := "b1", behaviorName := "Brushing",
      goalId := none, caregiverId := none }

/-- Nine times in the week before the thirteenth day, and four times in the week up to the
twentieth, the last of them on the seventeenth. -/
def brushings : List Event := brushed [14, 15, 16, 17, 18, 19, 20, 22, 24, 28, 30, 32, 34]

theorem brushings_form_and_slip : FormsAndSlips brushing brushings twentiethDay where
  routine := rfl
  often := by decide +kernel
  days := by decide +kernel
  rarer := by decide +kernel
  quiet := by
    unfold QuietFor
    decide +kernel

/-- One routine gets both cards. -/
theorem advice_contradicts : ¬ ∀ (b : Behavior) (es : List Event) (now : Instant) (s : Signal),
    b.isRoutine = true → Detect.routineSlipping b (Timeline.ofEvents es now) = .ok s →
      ¬ ((Detect.routineForming b (Timeline.ofEvents es now)).triggered = true ∧
        s.triggered = true) := by
  intro hnever
  have h := brushings_form_and_slip
  have hforming := routineForming_triggered.mpr ⟨h.routine, h.often, h.days⟩
  obtain ⟨s, hs, hslipping⟩ := hit_of_slips (by decide) h.slips
  exact hnever brushing brushings twentiethDay s rfl hs ⟨hforming, hslipping⟩

/-! ## When there is a contradiction -/

/-- A routine never gets both cards unless it forms and slips by the counts of its two weeks
and the days since its last event. If it does, it gets both, up to some huge number of
events. -/
theorem contradictory_advice_iff (b : Behavior) (es : List Event) (now : Instant) :
    ((Detect.routineForming b (Timeline.ofEvents es now)).triggered = true →
      ∀ s, Detect.routineSlipping b (Timeline.ofEvents es now) = .ok s → s.triggered = true →
        FormsAndSlips b es now) ∧
      (es.length < 2 ^ 50 → FormsAndSlips b es now →
        (Detect.routineForming b (Timeline.ofEvents es now)).triggered = true ∧
          ∃ s, Detect.routineSlipping b (Timeline.ofEvents es now) = .ok s ∧
            s.triggered = true) := by
  constructor
  · intro hforming s hslipping hs
    obtain ⟨hroutine, hoften, hdays⟩ := routineForming_triggered.mp hforming
    obtain ⟨hslips, -⟩ := slips_of_hit ⟨hslipping, hs⟩
    exact ⟨hroutine, hoften, hdays, hslips.rarer, hslips.quiet⟩
  · intro hcount h
    exact ⟨routineForming_triggered.mpr ⟨h.routine, h.often, h.days⟩, hit_of_slips hcount h.slips⟩

/-- The brushings, and their two cards. -/
theorem contradictory_advice_iff_brushings :
    FormsAndSlips brushing brushings twentiethDay ∧
      ∃ s, Detect.routineSlipping brushing (Timeline.ofEvents brushings twentiethDay) = .ok s ∧
        s.triggered = true := by
  obtain ⟨honly, hboth⟩ := contradictory_advice_iff brushing brushings twentiethDay
  obtain ⟨hforming, s, hs, hslipping⟩ := hboth (by decide) brushings_form_and_slip
  exact ⟨honly hforming s hs hslipping, s, hs, hslipping⟩

end MomentInsights
