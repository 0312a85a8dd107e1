-- Events that are dated later than the time of an evaluation. The windows of the
-- analysis end at that time, so later events do not count. A stall is the exception:
-- it asks for any good moment since five days ago, and one that is dated later is
-- one. So a later good moment stops the stalls, and that is all that it does.
import MomentInsights.Proofs.CitedEvidence
import MomentInsights.Proofs.Selection

namespace MomentInsights

/-! ## The events up to a time -/

theorem Instant.back_le (t : Instant) {d : Duration} (h : 0 ≤ d.micros) : t.back d ≤ t := by
  have hmicros := t.shift_micros ⟨-d.micros⟩
  dsimp only at hmicros
  show (t.shift ⟨-d.micros⟩).micros ≤ t.micros
  omega

/-- The events that are not later than the time. -/
def eventsUpTo (now : Instant) (es : List Event) : List Event := es.filter (·.time ≤ now)

/-- What is known, less the events later than the time. -/
def Source.upTo (src : Source) (now : Instant) : Source :=
  { src with events := fun id => eventsUpTo now (src.events id) }

namespace Timeline

theorem within_upTo (start now : Instant) (es : List Event) :
    within start now (eventsUpTo now es) = within start now es := by
  unfold within eventsUpTo
  rw [List.filter_filter]
  apply List.filter_congr
  intro e _
  cases decide (start ≤ e.time) <;> cases decide (e.time ≤ now) <;> rfl

/-- Only what has no window can tell that the later events are gone. -/
theorem ofEvents_upTo (es : List Event) (now : Instant) :
    ofEvents (eventsUpTo now es) now =
      { ofEvents es now with
        all := eventsUpTo now es
        positive := (eventsUpTo now es).filter Event.isPositive
        byBehavior := groupByBehavior (eventsUpTo now es) } := by
  unfold ofEvents
  dsimp only
  rw [within_upTo, within_upTo]

theorem fortnight_upTo (es : List Event) (now : Instant) :
    (ofEvents (eventsUpTo now es) now).fortnight = (ofEvents es now).fortnight := by
  rw [ofEvents_upTo]

theorem positive_upTo {es : List Event} {now : Instant}
    (h : ∀ e ∈ es, e.isPositive = true → e.time ≤ now) :
    (eventsUpTo now es).filter Event.isPositive = es.filter Event.isPositive := by
  unfold eventsUpTo
  rw [List.filter_filter]
  apply List.filter_congr
  intro e he
  cases hpositive : e.isPositive with
  | false => rfl
  | true => simp [h e he hpositive]

end Timeline

/-! ## Detectors -/

namespace Detect

variable {es : List Event} {now : Instant}

theorem goalAtRisk_upTo (g : Goal) :
    goalAtRisk g (Timeline.ofEvents (eventsUpTo now es) now) =
      goalAtRisk g (Timeline.ofEvents es now) := by
  rw [Timeline.ofEvents_upTo]
  rfl

theorem routineForming_upTo (b : Behavior) :
    routineForming b (Timeline.ofEvents (eventsUpTo now es) now) =
      routineForming b (Timeline.ofEvents es now) := by
  rw [Timeline.ofEvents_upTo]
  rfl

theorem routineSlipping_upTo (b : Behavior) :
    routineSlipping b (Timeline.ofEvents (eventsUpTo now es) now) =
      routineSlipping b (Timeline.ofEvents es now) := by
  rw [Timeline.ofEvents_upTo]
  rfl

theorem highChallengeWeek_upTo :
    highChallengeWeek (Timeline.ofEvents (eventsUpTo now es) now) =
      highChallengeWeek (Timeline.ofEvents es now) := by
  rw [Timeline.ofEvents_upTo]
  rfl

/-- Without a later good moment a stall is found as before. -/
theorem goalStalled_upTo (h : ∀ e ∈ es, e.isPositive = true → e.time ≤ now) (g : Goal) :
    goalStalled g (Timeline.ofEvents (eventsUpTo now es) now) =
      goalStalled g (Timeline.ofEvents es now) := by
  rw [Timeline.ofEvents_upTo, Timeline.positive_upTo h]
  rfl

/-- A later good moment is one since five days ago, and there is no stall. -/
theorem goalStalled_later {e : Event} (he : e ∈ es) (hpositive : e.isPositive = true)
    (hlater : now < e.time) (g : Goal) :
    ∃ reason, goalStalled g (Timeline.ofEvents es now) = .ok (Signal.miss .goalStalled reason) := by
  have hsince : e ∈ (Timeline.ofEvents es now).positivesSince (Duration.days stalledDays) := by
    apply List.mem_filter.mpr
    refine ⟨List.mem_filter.mpr ⟨he, hpositive⟩, decide_eq_true ?_⟩
    exact Nat.le_trans (now.back_le (by decide)) (Nat.le_of_lt hlater)
  have hfound : ((Timeline.ofEvents es now).positivesSince
      (Duration.days stalledDays)).isEmpty = false := by
    rw [List.isEmpty_eq_false_iff]
    exact List.ne_nil_of_mem hsince
  unfold goalStalled
  dsimp only
  split
  · exact ⟨_, rfl⟩
  · split
    · exact ⟨_, rfl⟩
    · rw [hfound]
      exact ⟨_, rfl⟩

theorem ofRoutine_upTo :
    ofRoutine (Timeline.ofEvents (eventsUpTo now es) now) =
      ofRoutine (Timeline.ofEvents es now) := by
  funext b
  unfold ofRoutine
  rw [routineForming_upTo, routineSlipping_upTo]

/-- Without a later good moment all signals are found as before. -/
theorem all_upTo (h : ∀ e ∈ es, e.isPositive = true → e.time ≤ now) (goals : List Goal)
    (routines : List Behavior) :
    all goals routines (Timeline.ofEvents (eventsUpTo now es) now) =
      all goals routines (Timeline.ofEvents es now) := by
  have hgoal : ofGoal (Timeline.ofEvents (eventsUpTo now es) now) =
      ofGoal (Timeline.ofEvents es now) := by
    funext g
    unfold ofGoal
    rw [goalAtRisk_upTo, goalStalled_upTo h]
  unfold all
  rw [hgoal, ofRoutine_upTo, highChallengeWeek_upTo]

end Detect

/-! ## Stalls among the signals -/

def Signal.isStall (s : Signal) : Bool := s.kind == .goalStalled

def Card.isStall (c : Card) : Bool := c.templateId == SignalKind.goalStalled.name

namespace Detect

/-- Of some signals the triggered ones remain, less the stalls. -/
def WithoutStalls (ss ss' : List Signal) : Prop :=
  ss'.filter (·.triggered) = (ss.filter (·.triggered)).filter (!·.isStall)

theorem withoutStalls_append {ss ss' tt tt' : List Signal} (hs : WithoutStalls ss ss')
    (ht : WithoutStalls tt tt') : WithoutStalls (ss ++ tt) (ss' ++ tt') := by
  unfold WithoutStalls at *
  rw [List.filter_append, List.filter_append, List.filter_append, hs, ht]

theorem withoutStalls_flatten {parts parts' : List (List Signal)}
    (h : List.Forall₂ WithoutStalls parts parts') :
    WithoutStalls parts.flatten parts'.flatten := by
  induction h with
  | nil => rfl
  | cons hpart _ ih => exact withoutStalls_append hpart ih

theorem withoutStalls_of_kind {ss : List Signal} (h : ∀ s ∈ ss, s.kind ≠ .goalStalled) :
    WithoutStalls ss ss := by
  unfold WithoutStalls
  rw [eq_comm, List.filter_eq_self]
  intro s hs
  simp [Signal.isStall, h s (List.mem_of_mem_filter hs)]

theorem withoutStalls_singleton {s : Signal} (h : s.kind ≠ .goalStalled) :
    WithoutStalls [s] [s] := by
  apply withoutStalls_of_kind
  intro s' hs'
  rw [List.mem_singleton.mp hs']
  exact h

theorem withoutStalls_stall {s : Signal} (h : s.kind = .goalStalled) (reason : String) :
    WithoutStalls [s] [Signal.miss .goalStalled reason] := by
  unfold WithoutStalls
  cases htriggered : s.triggered <;> simp [htriggered, h, Signal.miss, Signal.isStall]

section Later

variable {es : List Event} {now : Instant} {e : Event} (he : e ∈ es)
  (hpositive : e.isPositive = true) (hlater : now < e.time)
include he hpositive hlater

theorem ofGoal_later (g : Goal) (pair : List Signal)
    (h : ofGoal (Timeline.ofEvents (eventsUpTo now es) now) g = .ok pair) :
    ∃ pair', ofGoal (Timeline.ofEvents es now) g = .ok pair' ∧ WithoutStalls pair pair' := by
  obtain ⟨risk, stalled, hrisk, -, rfl, hkind, hkind'⟩ := ofGoal_ok h
  obtain ⟨reason, hmiss⟩ := goalStalled_later he hpositive hlater g
  rw [goalAtRisk_upTo] at hrisk
  unfold ofGoal
  rw [hrisk, hmiss]
  refine ⟨[risk, Signal.miss .goalStalled reason], rfl, ?_⟩
  have hkept : WithoutStalls [risk] [risk] := by
    apply withoutStalls_singleton
    rw [hkind]
    decide
  exact withoutStalls_append hkept (withoutStalls_stall hkind' reason)

/-- With a later good moment the stalls are gone from the signals, and nothing else. -/
theorem all_later {goals : List Goal} {routines : List Behavior} {signals : List Signal}
    (h : all goals routines (Timeline.ofEvents (eventsUpTo now es) now) = .ok signals) :
    ∃ signals', all goals routines (Timeline.ofEvents es now) = .ok signals' ∧
      WithoutStalls signals signals' := by
  unfold all at h ⊢
  rw [ofRoutine_upTo, highChallengeWeek_upTo] at h
  obtain ⟨ofGoals, hgoals, h⟩ := Outcome.bind_eq_ok.mp h
  obtain ⟨ofRoutines, hroutines, h⟩ := Outcome.bind_eq_ok.mp h
  obtain ⟨week, hweek, h⟩ := Outcome.bind_eq_ok.mp h
  cases h
  obtain ⟨ofGoals', hgoals', hrel⟩ :=
    Outcome.mapM_transfer hgoals (ofGoal_later he hpositive hlater)
  rw [hgoals', hroutines, hweek]
  refine ⟨ofGoals'.flatten ++ ofRoutines.flatten ++ [week], rfl, ?_⟩
  have hkept : WithoutStalls ofRoutines.flatten ofRoutines.flatten := by
    apply withoutStalls_of_kind
    intro s hs
    obtain ⟨pair, hpair, hs⟩ := List.mem_flatten.mp hs
    obtain ⟨b, -, hb⟩ := Outcome.exists_of_mem_mapM hroutines hpair
    rcases kind_of_ofRoutine hb s hs with hkind | hkind <;> rw [hkind] <;> decide
  have hweek : WithoutStalls [week] [week] := by
    apply withoutStalls_singleton
    rw [(highChallengeWeek_detected hweek).kind_eq]
    decide
  exact withoutStalls_append (withoutStalls_append (withoutStalls_flatten hrel) hkept) hweek

end Later

end Detect

/-! ## Accepted evidence -/

namespace Evidence

variable {known known' : List String}

/-- What all is known does not matter to a card that cites only known events. -/
theorem flaw?_congr {c : Card} (h : ∀ id ∈ c.eventIds, id ∈ known)
    (h' : ∀ id ∈ c.eventIds, id ∈ known') : flaw? known c = flaw? known' c := by
  rw [flaw?_of_known h, flaw?_of_known h']

theorem valid_congr {cards : List Card} (h : ∀ c ∈ cards, flaw? known c = flaw? known' c) :
    valid known cards = valid known' cards := by
  apply List.filter_congr
  intro c hc
  rw [h c hc]

theorem invalid_congr {cards : List Card} (h : ∀ c ∈ cards, flaw? known c = flaw? known' c) :
    invalid known cards = invalid known' cards := by
  apply List.filterMap_congr
  intro c hc
  rw [h c hc]

end Evidence

/-! ## Evaluations -/

namespace Engine

open Cooldown (Store Periods Record)

variable {child : Child} {es : List Event} {now : Instant}

/-- For the same signals the same cards are selected. -/
theorem select_congr {es' : List Event} {store : Store} {r : Report}
    (h : ∀ s ∈ r.signals, Detects (Timeline.ofEvents es now) s)
    (h' : ∀ s ∈ r.signals, Detects (Timeline.ofEvents es' now) s) :
    select child (Timeline.ofEvents es now) store r =
      select child (Timeline.ofEvents es' now) store r := by
  have hnow (es : List Event) : (Timeline.ofEvents es now).now = now := rfl
  unfold select
  dsimp only
  rw [hnow, hnow]
  cases hbuilt : r.triggered.mapM (Card.ofSignal · child now) with
  | error f => rfl
  | ok built =>
    have hflaw : ∀ c ∈ built, Evidence.flaw? (Timeline.ofEvents es now).eventIds c =
        Evidence.flaw? (Timeline.ofEvents es' now).eventIds c := by
      intro c hc
      exact Evidence.flaw?_congr (known_of_built (known_of_detected h) hbuilt c hc)
        (known_of_built (known_of_detected h') hbuilt c hc)
    rw [Outcome.ok_bind, Outcome.ok_bind, Evidence.valid_congr hflaw, Evidence.invalid_congr hflaw]

theorem statsOf_upTo (goals : List Goal) (routines : List Behavior) :
    statsOf (Timeline.ofEvents (eventsUpTo now es) now) goals routines =
      statsOf (Timeline.ofEvents es now) goals routines := by
  rw [Timeline.ofEvents_upTo]
  rfl

variable {src : Source} {store store' : Store} {childId : String} {r : Report}

theorem survey_upTo (h : ∀ e ∈ src.events childId, e.isPositive = true → e.time ≤ now)
    (store : Store) :
    survey (src.upTo now) store childId child now = survey src store childId child now := by
  unfold survey Source.upTo
  dsimp only
  rw [Detect.all_upTo h, statsOf_upTo]

/-- Without a later good moment the evaluation is as before. -/
theorem run_upTo (h : ∀ e ∈ src.events childId, e.isPositive = true → e.time ≤ now)
    (store : Store) :
    run (src.upTo now) store childId now = run src store childId now := by
  cases hchild : src.child childId with
  | none =>
    have hchild' : (src.upTo now).child childId = none := hchild
    unfold run
    rw [hchild, hchild']
  | some child =>
    have hchild' : (src.upTo now).child childId = some child := hchild
    have hevents : (src.upTo now).events childId = eventsUpTo now (src.events childId) := rfl
    rw [run_of_child hchild, run_of_child hchild', survey_upTo h, hevents]
    cases hsurvey : survey src store childId child now with
    | error f => rfl
    | ok found =>
      have hall := (survey_ok hsurvey).1
      have hall' := hall
      rw [← Detect.all_upTo h] at hall'
      rw [Outcome.ok_bind, Outcome.ok_bind]
      unfold finish sparse
      rw [Timeline.fortnight_upTo, select_congr (detects_of_all hall') (detects_of_all hall)]
      rfl

/-- The cards of the remaining signals are the remaining cards. -/
theorem built_withoutStalls {t t' : Timeline} {p p' : Periods} {rs rs' : List Record} {r' : Report}
    (hr : Evaluates child t p rs r) (hr' : Evaluates child t' p' rs' r') (hnow : t'.now = t.now)
    (hsignals : Detect.WithoutStalls r.signals r'.signals) :
    r'.built = r.built.filter (!·.isStall) := by
  have hkept : (r.triggered.filter (!·.isStall)).mapM (Card.ofSignal · child t.now) =
      .ok (r.built.filter (!·.isStall)) := by
    apply Outcome.mapM_filter hr.built
    intro s hs c hc
    obtain ⟨c', hc', htemplate, -⟩ := (detects_of_triggered hr.detected s hs).card child t.now
    rw [hc] at hc'
    cases hc'
    unfold Card.isStall Signal.isStall
    rw [htemplate]
    cases s.kind <;> decide
  have hbuilt := hr'.built
  rw [hnow, show r'.triggered = r.triggered.filter (!·.isStall) from hsignals, hkept] at hbuilt
  exact (Except.ok.inj hbuilt).symm

/-- So the accepted ones among them are what is left of the accepted cards. -/
theorem valid_withoutStalls {es' : List Event} {p p' : Periods} {rs rs' : List Record} {r' : Report}
    (hr : Evaluates child (Timeline.ofEvents es now) p rs r)
    (hr' : Evaluates child (Timeline.ofEvents es' now) p' rs' r')
    (hbuilt : r'.built = r.built.filter (!·.isStall)) :
    Evidence.valid (Timeline.ofEvents es' now).eventIds r'.built =
      (Evidence.valid (Timeline.ofEvents es now).eventIds r.built).filter (!·.isStall) := by
  have hflaw : ∀ c ∈ r'.built, Evidence.flaw? (Timeline.ofEvents es' now).eventIds c =
      Evidence.flaw? (Timeline.ofEvents es now).eventIds c := by
    intro c hc
    have hc' : c ∈ r.built := by
      rw [hbuilt] at hc
      exact List.mem_of_mem_filter hc
    exact Evidence.flaw?_congr (known_of_built (known_of_detected hr'.detected) hr'.built c hc)
      (known_of_built (known_of_detected hr.detected) hr.built c hc')
  rw [Evidence.valid_congr hflaw, hbuilt]
  exact List.filter_comm _ _ _

section Later

variable {e : Event} (he : e ∈ src.events childId) (hpositive : e.isPositive = true)
  (hlater : now < e.time)
include he hpositive hlater

theorem survey_later (h : survey (src.upTo now) store childId child now = .ok (r, store')) :
    ∃ signals, survey src store childId child now = .ok ({ r with signals }, store') ∧
      Detect.WithoutStalls r.signals signals := by
  unfold survey at h ⊢
  obtain ⟨signals, hsignals, h⟩ := Outcome.bind_eq_ok.mp h
  obtain ⟨found, hfound, h⟩ := Outcome.bind_eq_ok.mp h
  obtain ⟨stats, hstats, h⟩ := Outcome.bind_eq_ok.mp h
  cases h
  obtain ⟨signals', hsignals', hrel⟩ := Detect.all_later he hpositive hlater hsignals
  refine ⟨signals', ?_, hrel⟩
  dsimp only [Source.upTo] at hsignals' hstats ⊢
  rw [statsOf_upTo] at hstats
  rw [hsignals', Outcome.ok_bind, hfound, Outcome.ok_bind, hstats]
  rfl

theorem run_later_few (hchild : src.child childId = some child)
    (hfew : (Timeline.ofEvents (src.events childId) now).fortnight.length < minEvents)
    (h : run (src.upTo now) store childId now = .ok (r, store')) :
    ∃ r', run src store childId now = .ok (r', store') ∧
      Detect.WithoutStalls r.signals r'.signals ∧
      r.built = [] ∧ r'.built = [] ∧ r'.selected = r.selected := by
  have hchild' : (src.upTo now).child childId = some child := hchild
  have hevents : (src.upTo now).events childId = eventsUpTo now (src.events childId) := rfl
  rw [run_of_child hchild', hevents] at h
  obtain ⟨⟨report, cached⟩, hsurvey, h⟩ := Outcome.bind_eq_ok.mp h
  rw [finish_few (by rw [Timeline.fortnight_upTo]; exact hfew)] at h
  cases h
  obtain ⟨signals, hsurvey', hrel⟩ := survey_later he hpositive hlater hsurvey
  obtain ⟨-, -, hbuilt, -⟩ := survey_ok hsurvey
  rw [run_of_child hchild, hsurvey', Outcome.ok_bind, finish_few hfew]
  refine ⟨_, rfl, hrel, hbuilt, hbuilt, ?_⟩
  unfold sparse
  rw [Timeline.fortnight_upTo]
  rfl

theorem run_later_enough (hchild : src.child childId = some child)
    (henough : minEvents ≤ (Timeline.ofEvents (src.events childId) now).fortnight.length)
    (h : run (src.upTo now) store childId now = .ok (r, store')) :
    let valid := Evidence.valid
      (Timeline.ofEvents (eventsUpTo now (src.events childId)) now).eventIds r.built
    ∃ r', run src store childId now = .ok (r', store') ∧
      Detect.WithoutStalls r.signals r'.signals ∧ r'.built = r.built.filter (!·.isStall) ∧
      r.selected = chosen store now valid ∧
      r'.selected = chosen store now (valid.filter (!·.isStall)) := by
  intro valid
  have hchild' : (src.upTo now).child childId = some child := hchild
  have henough' : minEvents ≤
      (Timeline.ofEvents ((src.upTo now).events childId) now).fortnight.length := by
    rw [show (src.upTo now).events childId = eventsUpTo now (src.events childId) from rfl,
      Timeline.fortnight_upTo]
    exact henough
  have hrun := h
  rw [run_of_child hchild'] at hrun
  obtain ⟨⟨report, cached⟩, hsurvey, -⟩ := Outcome.bind_eq_ok.mp hrun
  obtain ⟨signals, hsurvey', hrel⟩ := survey_later he hpositive hlater hsurvey
  obtain ⟨r₁, rs, hrun, hrecords, hsignals, hr⟩ := run_of_survey hchild' henough' hsurvey
  rw [h] at hrun
  cases hrun
  obtain ⟨r', rs', hrun', hrecords', hsignals', hr'⟩ := run_of_survey hchild henough hsurvey'
  have hrel' : Detect.WithoutStalls r.signals r'.signals := by
    rw [hsignals, hsignals']
    exact hrel
  have hbuilt := built_withoutStalls hr hr' rfl hrel'
  refine ⟨r', hrun', hrel', hbuilt, hr.selected_chosen hrecords, ?_⟩
  rw [hr'.selected_chosen hrecords', valid_withoutStalls hr hr' hbuilt]
  rfl

/-- With a later good moment the evaluation is that of the signals less the stalls,
whether the child is known or not and whether it has enough moments or few. -/
theorem run_later (h : run (src.upTo now) store childId now = .ok (r, store')) :
    let t := Timeline.ofEvents (src.events childId) now
    let valid := Evidence.valid
      (Timeline.ofEvents (eventsUpTo now (src.events childId)) now).eventIds r.built
    ∃ r', run src store childId now = .ok (r', store') ∧
      Detect.WithoutStalls r.signals r'.signals ∧ r'.built = r.built.filter (!·.isStall) ∧
      (src.child childId = none ∨ t.fortnight.length < minEvents → r'.selected = r.selected) ∧
      (src.child childId ≠ none → minEvents ≤ t.fortnight.length →
        r.selected = chosen store now valid ∧
        r'.selected = chosen store now (valid.filter (!·.isStall))) := by
  intro t valid
  cases hchild : src.child childId with
  | none =>
    have hchild' : (src.upTo now).child childId = none := hchild
    unfold run at h
    rw [hchild'] at h
    cases h
    have hrun : ∃ r', run src store childId now = .ok (r', store) ∧ r'.signals = [] ∧
        r'.built = [] ∧ r'.selected = [] := by
      unfold run
      rw [hchild]
      exact ⟨_, rfl, rfl, rfl, rfl⟩
    obtain ⟨r', hrun, hsignals, hbuilt, hselected⟩ := hrun
    refine ⟨r', hrun, by rw [hsignals]; rfl, hbuilt, fun _ => hselected, ?_⟩
    intro hknown
    exact absurd rfl hknown
  | some child =>
    by_cases hfew : t.fortnight.length < minEvents
    · obtain ⟨r', hrun, hsignals, hbuilt, hbuilt', hselected⟩ :=
        run_later_few he hpositive hlater hchild hfew h
      refine ⟨r', hrun, hsignals, by rw [hbuilt, hbuilt']; rfl, fun _ => hselected, ?_⟩
      intro _ henough
      omega
    · have henough := Nat.not_lt.mp hfew
      obtain ⟨r', hrun, hsignals, hbuilt, hselected⟩ :=
        run_later_enough he hpositive hlater hchild henough h
      refine ⟨r', hrun, hsignals, hbuilt, ?_, fun _ _ => hselected⟩
      rintro (hnone | hfew')
      · cases hnone
      · exact absurd hfew' hfew

end Later

/-- Four of the five detectors do not see the events later than the time. If no
later event is a good moment, the evaluation is as it is without them. If one is,
no goal has stalled, and the evaluation is otherwise as it is without them: the same
signals and cards, less the stalls, and the selection from the rest. -/
theorem later_events_stop_stalls (src : Source) (store : Store) (childId : String)
    (now : Instant) :
    let es := src.events childId
    let t := Timeline.ofEvents es now
    let t' := Timeline.ofEvents (eventsUpTo now es) now
    ((∀ g, Detect.goalAtRisk g t' = Detect.goalAtRisk g t) ∧
      (∀ b, Detect.routineForming b t' = Detect.routineForming b t) ∧
      (∀ b, Detect.routineSlipping b t' = Detect.routineSlipping b t) ∧
      Detect.highChallengeWeek t' = Detect.highChallengeWeek t) ∧
    ((∀ e ∈ es, now < e.time → e.isPositive = false) →
      run (src.upTo now) store childId now = run src store childId now) ∧
    ((∃ e ∈ es, now < e.time ∧ e.isPositive = true) →
      (∀ g, ∃ reason, Detect.goalStalled g t = .ok (Signal.miss .goalStalled reason)) ∧
      ∀ r store', run (src.upTo now) store childId now = .ok (r, store') →
        ∃ r', run src store childId now = .ok (r', store') ∧
          r'.triggered = r.triggered.filter (!·.isStall) ∧
          r'.built = r.built.filter (!·.isStall) ∧
          (src.child childId = none ∨ t.fortnight.length < minEvents → r'.selected = r.selected) ∧
          (src.child childId ≠ none → minEvents ≤ t.fortnight.length →
            r.selected = chosen store now (Evidence.valid t'.eventIds r.built) ∧
            r'.selected = chosen store now
              ((Evidence.valid t'.eventIds r.built).filter (!·.isStall)))) := by
  intro es t t'
  refine ⟨⟨Detect.goalAtRisk_upTo, Detect.routineForming_upTo, Detect.routineSlipping_upTo,
    Detect.highChallengeWeek_upTo⟩, ?_, ?_⟩
  · intro hnone
    apply run_upTo
    intro e he hpositive
    by_contra hlater
    rw [hnone e he (Nat.not_le.mp hlater)] at hpositive
    cases hpositive
  · rintro ⟨e, he, hlater, hpositive⟩
    refine ⟨Detect.goalStalled_later he hpositive hlater, ?_⟩
    intro r store' h
    exact run_later he hpositive hlater h

/-! ## A good moment of the day after -/

/-- The child without moments in the week, and one good moment that is dated a day
later than the time of the evaluation. -/
def laterSource : Source :=
  Roster.source {
    children := [oldChild]
    events := oldMoments ++ [
      { id := "e4", childId := "c1", time := Instant.epoch.shift (Duration.days 21),
        category := .positive, stars := 1, behaviorId := "b1", behaviorName := "Sharing",
        goalId := none, caregiverId := none }]
    goals := [nearGoal]
    behaviors := [] }

/-- Without the later moment there is a card for the stalled goal, and with it none. -/
theorem later_moment_takes_card :
    ¬ ∀ (src : Source) (store : Store) (childId : String) (now : Instant),
      generate (src.upTo now) store childId now = generate src store childId now := by
  intro hall
  have hsame := congrArg (fun x => x.toOption.map (·.1.length))
    (hall laterSource {} "c1" twentiethDay)
  revert hsame
  decide +kernel

theorem later_events_stop_stalls_laterSource :
    ∃ r r' store', run (laterSource.upTo twentiethDay) {} "c1" twentiethDay = .ok (r, store') ∧
      run laterSource {} "c1" twentiethDay = .ok (r', store') ∧
      r'.built = r.built.filter (!·.isStall) ∧
      r'.selected = chosen {} twentiethDay
        ((Evidence.valid ["e1", "e2", "e3"] r.built).filter (!·.isStall)) := by
  have hlater : ∃ e ∈ laterSource.events "c1", twentiethDay < e.time ∧ e.isPositive = true := by
    decide +kernel
  have hchild : laterSource.child "c1" ≠ none := by decide +kernel
  have henough : minEvents ≤
      (Timeline.ofEvents (laterSource.events "c1") twentiethDay).fortnight.length := by
    decide +kernel
  obtain ⟨-, -, hstop⟩ := later_events_stop_stalls laterSource {} "c1" twentiethDay
  have hok : (run (laterSource.upTo twentiethDay) {} "c1" twentiethDay).isOk = true := by
    decide +kernel
  cases hrun : run (laterSource.upTo twentiethDay) {} "c1" twentiethDay with
  | error f =>
    rw [hrun] at hok
    cases hok
  | ok found =>
    obtain ⟨r, store'⟩ := found
    obtain ⟨r', hrun', -, hbuilt, -, hselected⟩ := (hstop hlater).2 r store' hrun
    exact ⟨r, r', store', rfl, hrun', hbuilt, (hselected hchild henough).2⟩

end Engine

end MomentInsights
