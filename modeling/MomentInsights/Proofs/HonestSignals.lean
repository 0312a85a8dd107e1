-- What a signal may claim. A miss claims nothing. A hit cites all events of its kind in the
-- last days and no others, each as often as it is there, and gives their number.
import MomentInsights.Proofs.ListingOrder
import MomentInsights.Proofs.RoutineAdvice

namespace MomentInsights

/-! ## The last days -/

/-- The event lies in the last days up to `now`, both ends included. -/
def Event.inLast (e : Event) (days : Nat) (now : Instant) : Bool :=
  now.micros ≤ e.time.micros + days * Duration.dayMicros && e.time.micros ≤ now.micros

/-- A window holds the last days, also where it starts at the start of time. -/
theorem Timeline.within_window (w : Window) (now : Instant) (es : List Event) :
    within (w.start now) now es = es.filter fun e => e.inLast w.days now := by
  unfold within
  apply List.filter_congr
  intro e _
  have hstart : (w.start now).micros = now.micros - w.days * Duration.dayMicros :=
    w.start_micros now
  have hfirst : w.start now ≤ e.time ↔ now.micros ≤ e.time.micros + w.days * Duration.dayMicros := by
    change (w.start now).micros ≤ e.time.micros ↔ _
    omega
  have hlast : e.time ≤ now ↔ e.time.micros ≤ now.micros := Iff.rfl
  unfold Event.inLast
  rw [decide_eq_decide.mpr hfirst, decide_eq_decide.mpr hlast]

/-- Those of a class, in the window. -/
theorem Timeline.within_filter (w : Window) (now : Instant) (es : List Event)
    (ofClass : Event → Bool) :
    (within (w.start now) now es).filter ofClass =
      es.filter fun e => ofClass e && e.inLast w.days now := by
  rw [within_window, List.filter_filter]

/-! ## Honesty -/

/-- A signal of the kind that claims no more and no less than the events of a class in its
window say. -/
structure Signal.Honest (kind : SignalKind) (ofClass : Event → Bool) (es : List Event)
    (now : Instant) (s : Signal) : Prop where
  kind_eq : s.kind = kind
  miss : s.triggered = false →
    s.confidence = .real .zero ∧ s.evidence.eventIds = [] ∧ s.evidence.count = 0 ∧ s.details = {}
  window : s.triggered = true → s.evidence.window = kind.window
  count : s.triggered = true → s.evidence.count = s.evidence.eventIds.length
  cites : s.triggered = true →
    s.evidence.eventIds.Perm
      ((es.filter fun e => ofClass e && e.inLast kind.window.days now).map (·.id))

/-- A detector that gives an honest signal, unless a quotient is too large. -/
def Honestly (kind : SignalKind) (ofClass : Event → Bool) (es : List Event) (now : Instant)
    (x : Except Failure Signal) : Prop :=
  (∀ s, x = .ok s → s.Honest kind ofClass es now) ∧ Outcome.FailsOnly .quotientTooLarge x

section Honest

variable {kind : SignalKind} {ofClass : Event → Bool} {es : List Event} {now : Instant}

theorem Gives.honest {cited : List Event} {told : SignalDetails → Prop} {s : Signal}
    (h : Gives kind cited kind.window told s)
    (hcited : cited.Perm (es.filter fun e => ofClass e && e.inLast kind.window.days now)) :
    s.Honest kind ofClass es now := by
  cases h with
  | miss reason =>
    refine ⟨rfl, fun _ => ⟨rfl, rfl, rfl, rfl⟩, ?_, ?_, ?_⟩ <;> intro hs <;> cases hs
  | hit _ =>
    refine ⟨rfl, ?_, fun _ => rfl, ?_, fun _ => hcited.map _⟩
    · intro hs
      cases hs
    · intro _
      exact congrArg Int.ofNat (List.length_map _).symm

end Honest

/-- The challenges and the positive events are all events. -/
theorem challenges_append_positives (es : List Event) :
    (es.filter Event.isChallenge ++ es.filter Event.isPositive).Perm es := by
  have hpositive : es.filter Event.isPositive = es.filter fun e => !e.isChallenge :=
    List.filter_congr fun e _ => e.isPositive_eq_not_isChallenge
  rw [hpositive]
  exact List.filter_append_perm Event.isChallenge es

/-- Whatever the events, every signal of the five detectors is honest. -/
theorem signals_are_honest (es : List Event) (now : Instant) (g : Goal) (b : Behavior) :
    let t := Timeline.ofEvents es now
    Honestly .goalAtRisk Event.isPositive es now (Detect.goalAtRisk g t) ∧
      Honestly .goalStalled Event.isPositive es now (Detect.goalStalled g t) ∧
      (Detect.routineForming b t).Honest .routineForming (fun e => e.behaviorId == b.id) es now ∧
      Honestly .routineSlipping (fun e => e.behaviorId == b.id) es now
        (Detect.routineSlipping b t) ∧
      Honestly .highChallengeWeek (fun _ => true) es now (Detect.highChallengeWeek t) := by
  intro t
  have hforming : (t.behaviorWeek b.id).Perm
      (es.filter fun e => e.behaviorId == b.id && e.inLast Window.week.days now) := by
    rw [Timeline.behaviorWeek_ofEvents, Timeline.within_filter]
  have hslipping : (Detect.newestFirst (t.behaviorFortnight b.id)).Perm
      (es.filter fun e => e.behaviorId == b.id && e.inLast Window.fortnight.days now) := by
    rw [← Timeline.within_filter, ← Timeline.behaviorFortnight_ofEvents]
    exact List.mergeSort_perm _ _
  have hweek : (t.challengesWeek ++ t.positiveWeek).Perm
      (es.filter fun e => true && e.inLast Window.week.days now) := by
    simp only [Bool.true_and]
    rw [← Timeline.within_window]
    exact challenges_append_positives t.week
  refine ⟨⟨?_, Detect.goalAtRisk_failsOnly t g⟩, ⟨?_, Detect.goalStalled_failsOnly t g⟩, ?_,
    ⟨?_, Detect.routineSlipping_failsOnly t b⟩, ⟨?_, Detect.highChallengeWeek_failsOnly t⟩⟩
  · intro s hs
    exact (Detect.goalAtRisk_gives hs).honest (.of_eq (Timeline.within_filter _ now es _))
  · intro s hs
    exact (Detect.goalStalled_gives hs).honest (.of_eq (Timeline.within_filter _ now es _))
  · exact (Detect.routineForming_gives b t).honest hforming
  · intro s hs
    exact (Detect.routineSlipping_gives hs).honest hslipping
  · intro s hs
    exact (Detect.highChallengeWeek_gives hs).honest hweek

/-- Three challenges at the first of all instants. -/
def firstChallenges : List Event :=
  oldMoments.map fun e => { e with time := Instant.first, category := .negative }

/-- A stall is told at the end of its window, and a hard week at the start of time. -/
theorem signals_are_honest_atEdges :
    (∃ s, Detect.goalStalled nearGoal (Timeline.ofEvents oldMoments twentiethDay) = .ok s ∧
      s.triggered = true ∧ s.evidence.count = s.evidence.eventIds.length ∧
      s.evidence.eventIds.Perm ["e1", "e2", "e3"]) ∧
    ∃ s, Detect.highChallengeWeek (Timeline.ofEvents firstChallenges Instant.first) = .ok s ∧
      s.triggered = true ∧ s.evidence.count = s.evidence.eventIds.length ∧
      s.evidence.eventIds.Perm ["e1", "e2", "e3"] := by
  obtain ⟨-, ⟨hstalled, -⟩, -⟩ := signals_are_honest oldMoments twentiethDay nearGoal brushing
  obtain ⟨-, -, -, -, ⟨hweek, -⟩⟩ :=
    signals_are_honest firstChallenges Instant.first nearGoal brushing
  have hstall : (Detect.goalStalled nearGoal
      (Timeline.ofEvents oldMoments twentiethDay)).toOption.map (·.triggered) = some true := by
    decide +kernel
  have hhard : (Detect.highChallengeWeek
      (Timeline.ofEvents firstChallenges Instant.first)).toOption.map (·.triggered) = some true := by
    decide +kernel
  obtain ⟨s, hs, htriggered⟩ := exists_hit hstall
  obtain ⟨s', hs', htriggered'⟩ := exists_hit hhard
  refine ⟨⟨s, hs, htriggered, (hstalled s hs).count htriggered, ?_⟩,
    ⟨s', hs', htriggered', (hweek s' hs').count htriggered', ?_⟩⟩
  · have hids : ((oldMoments.filter fun e => e.isPositive &&
        e.inLast SignalKind.goalStalled.window.days twentiethDay).map (·.id)) =
          ["e1", "e2", "e3"] := by
      decide +kernel
    exact hids ▸ (hstalled s hs).cites htriggered
  · have hids : ((firstChallenges.filter fun e => true &&
        e.inLast SignalKind.highChallengeWeek.window.days Instant.first).map (·.id)) =
          ["e1", "e2", "e3"] := by
      decide +kernel
    exact hids ▸ (hweek s' hs').cites htriggered'

end MomentInsights
