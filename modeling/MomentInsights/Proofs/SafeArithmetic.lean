-- Evaluations at the edges of what can be told: at the first and the last instants, with points
-- of 64 bits, and with all the days of the calendar between a time and a due date. Every
-- quotient has a divisor and is in range, and what is moved past the end of time stops there.
import MomentInsights.Proofs.CardIds
import MomentInsights.Proofs.HonestSignals
import MomentInsights.Proofs.NoOverflow

namespace MomentInsights

/-! ## Numbers of 64 bits -/

/-- There are fewer events than a binary value can count, and the points fit 64 bits. -/
structure Fits64 (es : List Event) (goals : List Goal) : Prop where
  count : es.length < 2 ^ 53
  stars : ∀ e ∈ es, e.stars.natAbs < 2 ^ 63
  points : ∀ g ∈ goals, g.targetPoints.natAbs < 2 ^ 63 ∧ g.currentPoints.natAbs < 2 ^ 63

namespace Fits64

variable {es : List Event} {goals : List Goal}

theorem moderate (h : Fits64 es goals) : Moderate es where
  count := Nat.le_trans (Nat.le_of_lt h.count) (by decide +kernel)
  points e he := Nat.le_of_lt (h.stars e he)

theorem goals_moderate (h : Fits64 es goals) : ∀ g ∈ goals, g.Moderate := by
  intro g hg
  obtain ⟨htarget, hearned⟩ := h.points g hg
  have hmost : 2 ^ 64 ≤ mostDividend := by decide +kernel
  constructor
  · unfold Goal.pointsNeeded
    omega
  · omega

end Fits64

/-! ## Times at the ends -/

/-- The windows hold all events of the last days, also where they start at the start of time. -/
structure Timeline.Exact (es : List Event) (now : Instant) : Prop where
  week : (ofEvents es now).week = es.filter fun e => e.inLast Window.week.days now
  fortnight : (ofEvents es now).fortnight = es.filter fun e => e.inLast Window.fortnight.days now
  since : ∀ days : Nat, (ofEvents es now).positivesSince (Duration.days days) =
    es.filter fun e => e.isPositive && now.micros ≤ e.time.micros + days * Duration.dayMicros

theorem Timeline.exact_ofEvents (es : List Event) (now : Instant) : Exact es now where
  week := within_window .week now es
  fortnight := within_window .fortnight now es
  since days := by
    have hback := now.back_days days
    unfold positivesSince
    change (es.filter Event.isPositive).filter (fun e => now.back (Duration.days days) ≤ e.time) = _
    rw [List.filter_filter]
    apply List.filter_congr
    intro e _
    have hcutoff : now.back (Duration.days days) ≤ e.time ↔
        now.micros ≤ e.time.micros + days * Duration.dayMicros := by
      change (now.back (Duration.days days)).micros ≤ e.time.micros ↔ _
      omega
    rw [decide_eq_decide.mpr hcutoff, Bool.and_comm]

theorem Card.insufficientData_expires (child : Child) (events : Int) (now : Instant) :
    (insufficientData child events now).expires = now.shift cardLifetime := by
  unfold insufficientData
  dsimp only

/-! ## Shares -/

theorem Gives.share {kind : SignalKind} {es : List Event} {w : Window}
    {told : SignalDetails → Prop} {s : Signal} (h : Gives kind es w told s) :
    ∃ share, s.confidence = .real share := by
  cases h with
  | miss reason => exact ⟨_, rfl⟩
  | hit _ => exact ⟨_, rfl⟩

theorem FoundAs.share {goals : List Goal} {routines : List Behavior} {t : Timeline} {s : Signal}
    {kind : SignalKind} (h : FoundAs goals routines t s kind) :
    ∃ share, s.confidence = .real share := by
  cases kind with
  | goalAtRisk =>
    obtain ⟨g, -, hs⟩ := h
    exact (Detect.goalAtRisk_gives hs).share
  | goalStalled =>
    obtain ⟨g, -, hs⟩ := h
    exact (Detect.goalStalled_gives hs).share
  | routineForming =>
    obtain ⟨b, -, rfl⟩ := h
    exact (Detect.routineForming_gives b t).share
  | routineSlipping =>
    obtain ⟨b, -, hs⟩ := h
    exact (Detect.routineSlipping_gives hs).share
  | highChallengeWeek => exact (Detect.highChallengeWeek_gives h).share

namespace Engine

open Cooldown (Store Record Periods)

/-- The times that a report tells lie in the calendar: cards expire after a day or at the end of
time, and cooldowns end later than now. -/
structure Timely (now : Instant) (p : Periods) (r : Report) : Prop where
  expires : ∀ c ∈ r.built ++ r.selected,
    (c.expires.micros : Int) = min (now.micros + cardLifetime.micros) Instant.last.micros
  rests : ∀ a ∈ r.cooldowns, now < a.ends ∧ ∃ shown : Instant, a.ends = shown.shift p.rest

variable {src : Source} {store store' : Store} {childId : String} {now : Instant} {r : Report}

theorem expires_of_sparse (child : Child) (t : Timeline) (r : Report) :
    ∀ c ∈ (sparse child t r).selected, c.expires = t.now.shift cardLifetime := by
  intro c hc
  rw [List.mem_singleton.mp hc]
  exact Card.insufficientData_expires child _ t.now

theorem expires_of_run (h : run src store childId now = .ok (r, store')) :
    ∀ c ∈ r.built ++ r.selected, c.expires = now.shift cardLifetime := by
  cases run_ends h with
  | unknown hchild =>
    intro c hc
    cases hc
  | @few child report read hchild hfew hsurvey =>
    intro c hc
    rcases List.mem_append.mp hc with hc | hc
    · rw [sparse_built hsurvey] at hc
      cases hc
    · exact expires_of_sparse child (Timeline.ofEvents (src.events childId) now) report c hc
  | full hchild hevents hrecords hall hr =>
    intro c hc
    have hc : c ∈ r.built := by
      rcases List.mem_append.mp hc with hc | hc
      · exact hc
      · exact hr.selected_subperm.subset hc
    obtain ⟨s, -, hcard⟩ := Outcome.exists_of_mem_mapM hr.built hc
    exact (Card.from_ofSignal hcard).expires

theorem shares_of_run (h : run src store childId now = .ok (r, store')) :
    ∀ s ∈ r.signals, ∃ share, s.confidence = .real share := by
  intro s hs
  cases run_ends h with
  | unknown hchild => cases hs
  | few hchild hfew hsurvey => exact (foundAs_of_all (survey_ok hsurvey).1 s hs).share
  | full hchild hevents hrecords hall hr => exact (foundAs_of_all hall s hs).share

theorem timely_of_run {rs : List Record} (hrecords : store.records = .ok (rs, store'))
    {store'' : Store} (h : run src store childId now = .ok (r, store'')) :
    Timely now store.periods r where
  expires c hc := by
    have hshift := now.shift_micros cardLifetime
    have hday : 0 ≤ cardLifetime.micros := by decide
    have hlast : (Instant.last.micros : Int) = Instant.count - 1 := rfl
    rw [expires_of_run h c hc, hshift, hlast]
    omega
  rests a ha := by
    have hactive := List.mem_mergeSort.mp (run_cooldowns hrecords h ha)
    obtain ⟨hmem, hends⟩ := List.mem_filter.mp hactive
    obtain ⟨record, -, rfl⟩ := List.mem_map.mp hmem
    exact ⟨of_decide_eq_true hends, record.shown, rfl⟩

/-- Evaluations never fail on numbers or times. With fewer than 2 ^ 53 events and points of 64
bits there is a report, and its cards are shown, for every store whose text can be read and at
every time. No window loses an event at the start of time, and no card and no cooldown ends past
the end of it. The text of the report can be written too: the shares that it rounds are binary
values and not whole numbers, which could be too large for that. -/
theorem arithmetic_never_fails {src : Source} {store : Store} {childId : String}
    {rs : List Record} (hdata : Fits64 (src.events childId) (src.goals childId))
    (hstore : Cooldown.decode store.periods store.room store.text = .ok rs) (now : Instant) :
    Timeline.Exact (src.events childId) now ∧
      ∃ r store', run src store childId now = .ok (r, store') ∧
        generate src store childId now = .ok (r.selected, store') ∧
        Timely now store.periods r ∧ ∀ s ∈ r.signals, ∃ share, s.confidence = .real share := by
  obtain ⟨⟨found, read⟩, hrecords⟩ : ∃ x, store.records = .ok x := by
    unfold Store.records
    cases store.cache with
    | some cached => exact ⟨_, rfl⟩
    | none => exact ⟨_, by rw [hstore]; rfl⟩
  obtain ⟨⟨r, store'⟩, hrun⟩ := run_total hrecords hdata.moderate hdata.goals_moderate now
  refine ⟨Timeline.exact_ofEvents _ _, r, store', hrun, ?_, timely_of_run hrecords hrun,
    shares_of_run hrun⟩
  rw [generate_eq, hrun]
  rfl

/-- The most points that fit. -/
def mostStars : Int := 2 ^ 63 - 1

/-- Moments of the most points at both ends of time, and a goal that all points are missing to
and that is due at the end. -/
def edgeSource : Source :=
  Roster.source {
    children := [oldChild]
    events := (oldMoments.map fun e => { e with time := Instant.first, stars := mostStars }) ++
      oldMoments.map fun e => { e with time := Instant.last, stars := -mostStars }
    goals := [{ nearGoal with
      targetPoints := mostStars, currentPoints := -mostStars, due := some Instant.last }]
    behaviors := [] }

theorem edgeSource_fits : Fits64 (edgeSource.events "c1") (edgeSource.goals "c1") :=
  ⟨by decide +kernel, by decide +kernel, by decide +kernel⟩

theorem arithmetic_never_fails_atEdges :
    (∃ r store', run edgeSource {} "c1" Instant.first = .ok (r, store') ∧
      generate edgeSource {} "c1" Instant.first = .ok (r.selected, store')) ∧
    ∃ r store', run edgeSource {} "c1" Instant.last = .ok (r, store') ∧
      generate edgeSource {} "c1" Instant.last = .ok (r.selected, store') ∧
      ∀ c ∈ r.selected, (c.expires.micros : Int) = Instant.last.micros := by
  have hstore : Cooldown.decode Periods.standard .standard none = .ok [] := rfl
  obtain ⟨-, r, store', hrun, hgenerate, -⟩ :=
    @arithmetic_never_fails edgeSource {} "c1" [] edgeSource_fits hstore Instant.first
  obtain ⟨-, r', store'', hrun', hgenerate', htimely, -⟩ :=
    @arithmetic_never_fails edgeSource {} "c1" [] edgeSource_fits hstore Instant.last
  refine ⟨⟨r, store', hrun, hgenerate⟩, r', store'', hrun', hgenerate', ?_⟩
  intro c hc
  rw [htimely.expires c (List.mem_append_right _ hc)]
  decide

end Engine

end MomentInsights
