-- When a goal is told as stalled and when a routine is told as forming. Both are decided by
-- counts of events in the last days, and the guards that the counts pass never decide more.
-- A stall is not told in one case: the progress of the goal is a quotient past the largest
-- binary value, and then there is no signal at all.
import Mathlib.Data.Finset.Card
import MomentInsights.Proofs.Calendar
import MomentInsights.Proofs.NoOverflow
import MomentInsights.Proofs.TimelineIndex

namespace MomentInsights

/-! ## Stalls -/

/-- The goal is open, there are three good moments in two weeks, and none in the last five
days or later. -/
structure Goal.HasStalled (g : Goal) (es : List Event) (now : Instant) : Prop where
  unredeemed : g.redeemed = false
  unexpired : g.expired = false
  enough : 3 ≤ (es.filter fun e => e.isPositive && e.inLast 14 now).length
  quiet : ∀ e ∈ es, e.isPositive = true → e.time.micros + 5 * Duration.dayMicros < now.micros

/-- The reason that is told only where nothing is found at all. -/
def nothingFound : String := "No events found for this child"

section Texts

variable {start other : String} (h : ¬ start.toList <+: other.toList)
include h

/-- A text that starts in another way is another text. -/
theorem ne_of_start (rest : String) : start ++ rest ≠ other := by
  rintro rfl
  apply h
  rw [String.toList_append]
  exact List.prefix_append _ _

/-- The texts that tell of one thing. -/
theorem text_ne (a b : String) : start ++ a ++ b ≠ other := by
  rw [String.append_assoc]
  exact ne_of_start h _

/-- The texts that tell of two things. -/
theorem longText_ne (a b c d : String) : start ++ a ++ b ++ c ++ d ≠ other := by
  simp only [String.append_assoc]
  exact ne_of_start h _

end Texts

section Stalls

variable {g : Goal} {es : List Event} {now : Instant}

theorem isActive_iff : g.isActive = true ↔ g.redeemed = false ∧ g.expired = false := by
  unfold Goal.isActive
  simp

/-- Nothing is found after the cutoff just when the last days are quiet. The cutoff may be the
start of time. -/
theorem positivesSince_eq_nil : (Timeline.ofEvents es now).positivesSince
      (Duration.days Detect.stalledDays) = [] ↔
    ∀ e ∈ es, e.isPositive = true → e.time.micros + 5 * Duration.dayMicros < now.micros := by
  have hcutoff := Timeline.back_cutoff now (Duration.days Detect.stalledDays)
  have hback : (now.back (Duration.days Detect.stalledDays)).micros =
      now.micros - 5 * Duration.dayMicros := now.back_days 5
  rw [Timeline.positivesSince_filter, List.filter_eq_nil_iff]
  have hsame (e : Event) : ¬ (e.isPositive && decide (Timeline.cutoff now
        (Duration.days Detect.stalledDays) ≤ (e.time.micros : Int))) = true ↔
      (e.isPositive = true → e.time.micros + 5 * Duration.dayMicros < now.micros) := by
    rw [Bool.and_eq_true, decide_eq_true_iff, not_and]
    apply imp_congr Iff.rfl
    omega
  simp only [hsame]

/-- What has stalled passes the guards, and what passes them has stalled. -/
theorem hasStalled_iff : g.HasStalled es now ↔
    g.isActive = true ∧ ¬ (Timeline.ofEvents es now).positiveFortnight.length < minEvents ∧
      (Timeline.ofEvents es now).positivesSince (Duration.days Detect.stalledDays) = [] := by
  have hfortnight : (Timeline.ofEvents es now).positiveFortnight =
      es.filter fun e => e.isPositive && e.inLast 14 now :=
    Timeline.within_filter .fortnight now es _
  rw [isActive_iff, hfortnight, positivesSince_eq_nil, Nat.not_lt]
  constructor
  · intro h
    exact ⟨⟨h.unredeemed, h.unexpired⟩, h.enough, h.quiet⟩
  · rintro ⟨⟨hunredeemed, hunexpired⟩, henough, hquiet⟩
    exact ⟨hunredeemed, hunexpired, henough, hquiet⟩

/-- Behind the guards there is a newest good moment. -/
theorem exists_lastPositive (h : g.HasStalled es now) :
    ∃ newest, (Timeline.ofEvents es now).lastPositive = some newest := by
  have hpos : 0 < (es.filter fun e => e.isPositive && e.inLast 14 now).length :=
    Nat.lt_of_lt_of_le (by decide) h.enough
  obtain ⟨e, he⟩ := List.exists_mem_of_length_pos hpos
  obtain ⟨hmem, hgood⟩ := List.mem_filter.mp he
  have hpositive : e ∈ es.filter Event.isPositive :=
    List.mem_filter.mpr ⟨hmem, (Bool.and_eq_true_iff.mp hgood).1⟩
  have hnewest := newestOf_lastPositive (Timeline.ofEvents es now)
  cases hlast : (Timeline.ofEvents es now).lastPositive with
  | some newest => exact ⟨newest, rfl⟩
  | none =>
    rw [hlast] at hnewest
    cases hnewest with
    | none hnil =>
      change es.filter Event.isPositive = [] at hnil
      rw [hnil] at hpositive
      cases hpositive

/-- What has not stalled is a miss, and the reason is that of a guard. -/
theorem goalStalled_of_not (h : ¬ g.HasStalled es now) :
    ∃ reason, Detect.goalStalled g (Timeline.ofEvents es now) =
      .ok (Signal.miss .goalStalled reason) ∧ reason ≠ nothingFound := by
  rw [hasStalled_iff] at h
  unfold Detect.goalStalled
  dsimp only
  by_cases hactive : g.isActive = true
  · rw [if_neg (by simp [hactive])]
    by_cases hfew : (Timeline.ofEvents es now).positiveFortnight.length < minEvents
    · rw [if_pos hfew]
      exact ⟨_, rfl, by decide⟩
    · have hrecent : (Timeline.ofEvents es now).positivesSince
          (Duration.days Detect.stalledDays) ≠ [] := fun hnil => h ⟨hactive, hfew, hnil⟩
      rw [if_neg hfew, if_pos (by simpa using hrecent)]
      exact ⟨_, rfl, longText_ne (by decide) _ _ _ _⟩
  · rw [if_pos (by simpa using hactive)]
    exact ⟨_, rfl, by decide⟩

/-- What has stalled is a hit, as soon as its progress is known. -/
theorem goalStalled_of_hasStalled (h : g.HasStalled es now) :
    ∃ hit : Binary64 → Signal,
      Detect.goalStalled g (Timeline.ofEvents es now) = hit <$> g.progress ∧
        ∀ share, (hit share).triggered = true ∧ (hit share).explanation ≠ nothingFound := by
  obtain ⟨newest, hlast⟩ := exists_lastPositive h
  obtain ⟨hactive, hfew, hrecent⟩ := hasStalled_iff.mp h
  unfold Detect.goalStalled
  dsimp only
  rw [if_neg (by simp [hactive]), if_neg hfew, if_neg (by simp [hrecent]), hlast]
  refine ⟨_, bind_pure_comp _ _, ?_⟩
  intro share
  exact ⟨rfl, longText_ne (by decide) _ _ _ _⟩

/-- The ways in which the search for a stall ends. -/
inductive StallEnds (g : Goal) (es : List Event) (now : Instant) : Except Failure Signal → Prop where
  | miss {reason : String} (h : ¬ g.HasStalled es now) (hreason : reason ≠ nothingFound) :
    StallEnds g es now (.ok (Signal.miss .goalStalled reason))
  | hit {s : Signal} (h : g.HasStalled es now) (hprogress : g.InProportion)
    (hs : s.triggered = true) (hreason : s.explanation ≠ nothingFound) :
    StallEnds g es now (.ok s)
  | untold (h : g.HasStalled es now) (hprogress : ¬ g.InProportion) :
    StallEnds g es now (.error .quotientTooLarge)

theorem stallEnds (g : Goal) (es : List Event) (now : Instant) :
    StallEnds g es now (Detect.goalStalled g (Timeline.ofEvents es now)) := by
  by_cases h : g.HasStalled es now
  · obtain ⟨hit, heq, hhit⟩ := goalStalled_of_hasStalled h
    rw [heq]
    by_cases hprogress : g.InProportion
    · obtain ⟨share, hshare⟩ := Goal.progress_of_inProportion hprogress
      rw [hshare]
      exact .hit h hprogress (hhit share).1 (hhit share).2
    · rw [Goal.progress_of_not hprogress]
      exact .untold h hprogress
  · obtain ⟨reason, heq, hreason⟩ := goalStalled_of_not h
    rw [heq]
    exact .miss h hreason

section Ends

variable {answer : Except Failure Signal} (hends : StallEnds g es now answer)
include hends

theorem StallEnds.hit_iff : (∃ s, answer = .ok s ∧ s.triggered = true) ↔
    g.HasStalled es now ∧ g.InProportion := by
  cases hends with
  | miss h _ => simp [h, Signal.miss]
  | hit h hprogress hs _ => simp [h, hprogress, hs]
  | untold _ hprogress => simp [hprogress]

theorem StallEnds.miss_iff : (∃ s, answer = .ok s ∧ s.triggered = false) ↔
    ¬ g.HasStalled es now := by
  cases hends with
  | miss h _ => simp [h, Signal.miss]
  | hit h _ hs _ => simp [h, hs]
  | untold h _ => simp [h]

theorem StallEnds.error_iff : answer = .error .quotientTooLarge ↔
    g.HasStalled es now ∧ ¬ g.InProportion := by
  cases hends with
  | miss h _ => simp [h]
  | hit _ hprogress _ _ => simp [hprogress]
  | untold h hprogress => simp [h, hprogress]

theorem StallEnds.explanation_ne : ∀ s, answer = .ok s → s.explanation ≠ nothingFound := by
  intro s hs
  cases hends with
  | miss _ hreason =>
    cases hs
    exact hreason
  | hit _ _ _ hreason =>
    cases hs
    exact hreason
  | untold _ _ => cases hs

end Ends

end Stalls

/-! ## Habits -/

/-- The events of the behavior in the last days. -/
def Behavior.loggedIn (b : Behavior) (days : Nat) (now : Instant) (es : List Event) :
    List Event :=
  es.filter fun e => e.behaviorId == b.id && e.inLast days now

/-- The behavior is a routine that was there four times in the last week, on three different
days of the calendar. -/
structure Behavior.HasFormed (b : Behavior) (es : List Event) (now : Instant) : Prop where
  routine : b.category = .routine
  often : 4 ≤ (b.loggedIn 7 now es).length
  days : 3 ≤ ((b.loggedIn 7 now es).map fun e => e.time.date).toFinset.card

/-- Days differ just when their dates do. -/
theorem length_distinctDays (es : List Event) :
    (Detect.distinctDays es).length = (es.map fun e => e.time.date).toFinset.card := by
  have hdates : (es.map fun e => e.time.date).toFinset =
      (Detect.distinctDays es).toFinset.image Date.ofDayNumber := by
    ext d
    simp [Detect.distinctDays, Instant.date]
  have hdays : ∀ n ∈ Detect.distinctDays es, n < Date.dayCount := by
    intro n hn
    obtain ⟨e, -, rfl⟩ := List.mem_map.mp (List.mem_eraseDups.mp hn)
    exact e.time.dayNumber_lt
  rw [hdates, Finset.card_image_of_injOn]
  · exact (List.toFinset_card_of_nodup (Order.nodup_eraseDups _)).symm
  · intro n hn m hm hsame
    have hn' := hdays n (List.mem_toFinset.mp hn)
    have hm' := hdays m (List.mem_toFinset.mp hm)
    rw [← Date.dayNumber_ofDayNumber hn', ← Date.dayNumber_ofDayNumber hm']
    exact congrArg Date.dayNumber hsame

section Habits

variable {b : Behavior} {es : List Event} {now : Instant}

theorem lastWeek_eq (b : Behavior) (es : List Event) (now : Instant) :
    lastWeek b now es = b.loggedIn 7 now es := by
  rw [← behaviorWeek_eq, Timeline.behaviorWeek_filter]
  rfl

theorem isRoutine_iff : b.isRoutine = true ↔ b.category = .routine := beq_iff_eq

theorem routineForming_iff :
    (Detect.routineForming b (Timeline.ofEvents es now)).triggered = true ↔
      b.HasFormed es now := by
  rw [routineForming_triggered, lastWeek_eq, length_distinctDays, isRoutine_iff]
  constructor
  · rintro ⟨hroutine, hoften, hdays⟩
    exact ⟨hroutine, hoften, hdays⟩
  · intro h
    exact ⟨h.routine, h.often, h.days⟩

/-- Two weeks with too few events have a last week with too few. -/
theorem few_of_few_fortnight
    (h : ((Timeline.ofEvents es now).behaviorFortnight b.id).length < minEvents) :
    ((Timeline.ofEvents es now).behaviorWeek b.id).length < Detect.formingEvents := by
  have hlength := lastWeek_length_le b es now
  have hfewest : minEvents ≤ Detect.formingEvents := by decide
  rw [behaviorWeek_eq]
  omega

end Habits

/-! ## Both -/

/-- A goal is told as stalled just when it has stalled, and it is not told so just when it has
not, for goals in proportion. A goal out of proportion that has stalled has no signal. The
search for the newest good moment never comes back without one. A routine is told as forming
just when it has formed, and the guard on its two weeks never decides. -/
theorem stalls_and_habits (g : Goal) (b : Behavior) (es : List Event) (now : Instant) :
    let t := Timeline.ofEvents es now
    ((∃ s, Detect.goalStalled g t = .ok s ∧ s.triggered = true) ↔
        g.HasStalled es now ∧ g.InProportion) ∧
      ((∃ s, Detect.goalStalled g t = .ok s ∧ s.triggered = false) ↔ ¬ g.HasStalled es now) ∧
      (Detect.goalStalled g t = .error .quotientTooLarge ↔
        g.HasStalled es now ∧ ¬ g.InProportion) ∧
      (∀ s, Detect.goalStalled g t = .ok s → s.explanation ≠ nothingFound) ∧
      ((Detect.routineForming b t).triggered = true ↔ b.HasFormed es now) ∧
      ((t.behaviorFortnight b.id).length < minEvents →
        (t.behaviorWeek b.id).length < Detect.formingEvents) := by
  intro t
  have hends := stallEnds g es now
  exact ⟨hends.hit_iff, hends.miss_iff, hends.error_iff, hends.explanation_ne, routineForming_iff,
    few_of_few_fortnight⟩

/-- A goal that has as many points as no binary value can count, and a target of a hundred. -/
def hugeGoal : Goal := { nearGoal with currentPoints := 10 ^ 400 }

theorem hugeGoal_hasStalled : hugeGoal.HasStalled oldMoments twentiethDay where
  unredeemed := rfl
  unexpired := rfl
  enough := by decide +kernel
  quiet := by decide +kernel

/-- It has stalled, and that is not told. -/
theorem stall_untold : ¬ ∀ (g : Goal) (es : List Event) (now : Instant),
    (∃ s, Detect.goalStalled g (Timeline.ofEvents es now) = .ok s ∧ s.triggered = true) ↔
      g.HasStalled es now := by
  intro hall
  obtain ⟨s, hs, -⟩ := (hall hugeGoal oldMoments twentiethDay).mpr hugeGoal_hasStalled
  have hlarge : ¬ hugeGoal.InProportion := by
    unfold Goal.InProportion
    decide +kernel
  have huntold := (stallEnds hugeGoal oldMoments twentiethDay).error_iff.mpr
    ⟨hugeGoal_hasStalled, hlarge⟩
  rw [hs] at huntold
  cases huntold

end MomentInsights
