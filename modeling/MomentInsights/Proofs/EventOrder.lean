-- The order in which the events of a child are given. The detectors count, add up
-- and look for the newest event, and none of this depends on the order. So events
-- in another order give the same report, but for the order of the cited ids.
import Mathlib.Algebra.BigOperators.Group.List.Basic
import MomentInsights.Proofs.CitationOrder

namespace MomentInsights

/-! ## The newest event -/

theorem Instant.le_antisymm {a b : Instant} (hab : a ≤ b) (hba : b ≤ a) : a = b := by
  obtain ⟨m, _⟩ := a
  obtain ⟨n, _⟩ := b
  have hmn : m = n := Nat.le_antisymm hab hba
  subst hmn
  rfl

/-- One of the events, if there are any, and none of them is later. -/
inductive NewestOf (es : List Event) : Option Event → Prop where
  | none (h : es = []) : NewestOf es none
  | some {e : Event} (hmem : e ∈ es) (hmax : ∀ x ∈ es, x.time ≤ e.time) : NewestOf es (some e)

/-- Two events of one time, or none. -/
inductive SameTime : Option Event → Option Event → Prop where
  | none : SameTime none none
  | some {e e' : Event} (h : e.time = e'.time) : SameTime (some e) (some e')

/-- There may be several newest events, but they are of one time. -/
theorem NewestOf.sameTime {es es' : List Event} (h : es'.Perm es) {x x' : Option Event}
    (hx : NewestOf es x) (hx' : NewestOf es' x') : SameTime x' x := by
  cases hx with
  | none hnil =>
    cases hx' with
    | none _ => exact .none
    | some hmem' _ =>
      rw [hnil] at h
      rw [h.eq_nil] at hmem'
      cases hmem'
  | some hmem hmax =>
    cases hx' with
    | none hnil' =>
      rw [hnil'] at h
      rw [h.symm.eq_nil] at hmem
      cases hmem
    | some hmem' hmax' =>
      exact .some (Instant.le_antisymm (hmax _ (h.mem_iff.mp hmem')) (hmax' _ (h.mem_iff.mpr hmem)))

theorem newestOf_head? (es : List Event) : NewestOf es (Detect.newestFirst es).head? := by
  have hsorted : (Detect.newestFirst es).Pairwise fun a b => decide (b.time ≤ a.time) = true := by
    apply List.pairwise_mergeSort
    · intro a b c hab hbc
      rw [decide_eq_true_iff] at hab hbc ⊢
      exact Nat.le_trans hbc hab
    · intro a b
      rw [Bool.or_eq_true, decide_eq_true_iff, decide_eq_true_iff]
      exact Nat.le_total b.time.micros a.time.micros
  have hmem (x : Event) : x ∈ Detect.newestFirst es ↔ x ∈ es := List.mem_mergeSort
  cases hfirst : Detect.newestFirst es with
  | nil =>
    apply NewestOf.none
    rw [← List.length_eq_zero_iff, ← List.length_mergeSort es]
    exact congrArg List.length hfirst
  | cons e rest =>
    rw [hfirst, List.pairwise_cons] at hsorted
    rw [hfirst] at hmem
    apply NewestOf.some ((hmem e).mp List.mem_cons_self)
    intro x hx
    rcases List.mem_cons.mp ((hmem x).mpr hx) with rfl | hx
    · exact Nat.le_refl _
    · exact of_decide_eq_true (hsorted.1 x hx)

theorem laterEvent_some (first x : Event) :
    ∃ kept, Timeline.laterEvent (some first) x = some kept ∧ (kept = first ∨ kept = x) ∧
      first.time ≤ kept.time ∧ x.time ≤ kept.time := by
  unfold Timeline.laterEvent
  dsimp only
  split
  · rename_i hlater
    exact ⟨x, rfl, Or.inr rfl, Nat.le_of_lt hlater, Nat.le_refl _⟩
  · rename_i hlater
    exact ⟨first, rfl, Or.inl rfl, Nat.le_refl _, Nat.not_lt.mp hlater⟩

/-- The search keeps the newest of the event it holds and those it comes to. -/
theorem newestOf_foldl (es : List Event) (first : Event) :
    NewestOf (first :: es) (es.foldl Timeline.laterEvent (some first)) := by
  induction es generalizing first with
  | nil =>
    apply NewestOf.some List.mem_cons_self
    intro x hx
    rw [List.mem_singleton.mp hx]
    exact Nat.le_refl _
  | cons x es ih =>
    obtain ⟨kept, hstep, hkept, hfirst, hx⟩ := laterEvent_some first x
    rw [List.foldl_cons, hstep]
    have hrest := ih kept
    generalize es.foldl Timeline.laterEvent (some kept) = found at hrest
    cases hrest with
    | none hnil => cases hnil
    | some hmem hmax =>
      have hlast := hmax kept List.mem_cons_self
      apply NewestOf.some
      · rcases List.mem_cons.mp hmem with rfl | hmem
        · rcases hkept with rfl | rfl <;> simp
        · exact List.mem_cons_of_mem _ (List.mem_cons_of_mem _ hmem)
      · intro y hy
        rcases List.mem_cons.mp hy with rfl | hy
        · exact Nat.le_trans hfirst hlast
        · rcases List.mem_cons.mp hy with rfl | hy
          · exact Nat.le_trans hx hlast
          · exact hmax y (List.mem_cons_of_mem _ hy)

theorem newestOf_lastPositive (t : Timeline) : NewestOf t.positive t.lastPositive := by
  unfold Timeline.lastPositive
  cases t.positive with
  | nil => exact .none rfl
  | cons first es => exact newestOf_foldl es first

namespace Timeline

/-! ## Two timelines -/

/-- The same events at the same time, perhaps in another order. -/
structure Shuffled (t t' : Timeline) : Prop where
  now_eq : t'.now = t.now
  eventIds : t'.eventIds.Perm t.eventIds
  fortnight : t'.fortnight.Perm t.fortnight
  positive : t'.positive.Perm t.positive
  positiveWeek : t'.positiveWeek.Perm t.positiveWeek
  positiveFortnight : t'.positiveFortnight.Perm t.positiveFortnight
  challengesWeek : t'.challengesWeek.Perm t.challengesWeek
  routinesWeek : t'.routinesWeek.Perm t.routinesWeek
  behaviorWeek (id : String) : (t'.behaviorWeek id).Perm (t.behaviorWeek id)
  behaviorFortnight (id : String) : (t'.behaviorFortnight id).Perm (t.behaviorFortnight id)

theorem shuffled_of_perm {es es' : List Event} (h : es'.Perm es) (now : Instant) :
    Shuffled (ofEvents es now) (ofEvents es' now) where
  now_eq := rfl
  eventIds := h.map _
  fortnight := h.filter _
  positive := h.filter _
  positiveWeek := (h.filter _).filter _
  positiveFortnight := (h.filter _).filter _
  challengesWeek := (h.filter _).filter _
  routinesWeek := (h.filter _).filter _
  behaviorWeek id := by
    rw [behaviorWeek_ofEvents, behaviorWeek_ofEvents]
    exact (h.filter _).filter _
  behaviorFortnight id := by
    rw [behaviorFortnight_ofEvents, behaviorFortnight_ofEvents]
    exact (h.filter _).filter _

variable {t t' : Timeline} (h : Shuffled t t')
include h

theorem Shuffled.lastPositive : SameTime t'.lastPositive t.lastPositive :=
  (newestOf_lastPositive t).sameTime h.positive (newestOf_lastPositive t')

theorem Shuffled.positivesSince (d : Duration) :
    (t'.positivesSince d).Perm (t.positivesSince d) := by
  unfold Timeline.positivesSince
  rw [h.now_eq]
  exact h.positive.filter _

end Timeline

/-! ## Detectors -/

namespace Detect

theorem ordered_hit {kind : SignalKind} {confidence : Binary64} {es es' : List Event} {w : Window}
    {explanation : String} {details : SignalDetails} (h : es'.Perm es) :
    (Signal.hit kind confidence es' w explanation details).ordered =
      (Signal.hit kind confidence es w explanation details).ordered := by
  unfold Signal.ordered Signal.hit Citation.ofEvents
  dsimp only
  rw [orderedIds_eq_iff.mpr (h.map _), h.length_eq]

section Steps

variable {x y : Except Failure Signal}

/-- Two detectors that give up alike agree if they agree where they go on. -/
theorem ordered_unless {c : Prop} [Decidable c] {s : Signal}
    (h : ¬ c → x.map Signal.ordered = y.map Signal.ordered) :
    (if c then pure s else x).map Signal.ordered =
      (if c then pure s else y).map Signal.ordered := by
  by_cases hc : c
  · rw [if_pos hc, if_pos hc]
  · rw [if_neg hc, if_neg hc]
    exact h hc

theorem ordered_bind {α : Type} {a : Except Failure α} {f g : α → Except Failure Signal}
    (h : ∀ v, (f v).map Signal.ordered = (g v).map Signal.ordered) :
    (a >>= f).map Signal.ordered = (a >>= g).map Signal.ordered := by
  cases a with
  | error e => rfl
  | ok v => exact h v

end Steps

theorem distinctDays_perm {es es' : List Event} (h : es'.Perm es) :
    (distinctDays es').Perm (distinctDays es) := Order.eraseDups_perm (h.map _)

theorem newestFirst_perm {es es' : List Event} (h : es'.Perm es) :
    (newestFirst es').Perm (newestFirst es) :=
  ((List.mergeSort_perm es' _).trans h).trans (List.mergeSort_perm es _).symm

theorem newestFirst_head? {es es' : List Event} (h : es'.Perm es) :
    SameTime (newestFirst es').head? (newestFirst es).head? :=
  (newestOf_head? es).sameTime h (newestOf_head? es')

variable {t t' : Timeline} (h : t.Shuffled t')
include h

theorem goalAtRisk_shuffled (g : Goal) :
    (goalAtRisk g t').map Signal.ordered = (goalAtRisk g t).map Signal.ordered := by
  have hsum : (t'.positiveWeek.map (·.stars)).sum = (t.positiveWeek.map (·.stars)).sum :=
    (h.positiveWeek.map _).sum_eq
  unfold goalAtRisk
  dsimp only
  rw [h.now_eq, h.positiveFortnight.length_eq, h.positiveWeek.length_eq, hsum]
  cases g.daysRemaining t.now with
  | none => rfl
  | some days =>
    refine ordered_unless fun _ => ?_
    refine ordered_unless fun _ => ?_
    refine ordered_unless fun _ => ?_
    refine ordered_bind fun paceNeeded => ?_
    refine ordered_bind fun pace => ?_
    refine ordered_unless fun _ => ?_
    refine ordered_bind fun share => ?_
    refine ordered_bind fun progress => ?_
    exact congrArg Except.ok (ordered_hit h.positiveWeek)

theorem goalStalled_shuffled (g : Goal) :
    (goalStalled g t').map Signal.ordered = (goalStalled g t).map Signal.ordered := by
  unfold goalStalled
  dsimp only
  rw [h.now_eq, h.positiveFortnight.length_eq, (h.positivesSince _).length_eq,
    (h.positivesSince _).isEmpty_eq]
  refine ordered_unless fun _ => ?_
  refine ordered_unless fun _ => ?_
  refine ordered_unless fun _ => ?_
  -- Of the last good moment only the time is read.
  have hlast := h.lastPositive
  generalize t.lastPositive = last at hlast
  generalize t'.lastPositive = last' at hlast
  cases hlast with
  | none => rfl
  | some htime =>
    dsimp only
    rw [htime]
    refine ordered_bind fun progress => ?_
    exact congrArg Except.ok (ordered_hit h.positiveFortnight)

theorem routineForming_shuffled (b : Behavior) :
    (routineForming b t').ordered = (routineForming b t).ordered := by
  have hrecent := h.behaviorWeek b.id
  unfold routineForming
  dsimp only
  rw [(h.behaviorFortnight b.id).length_eq, hrecent.length_eq,
    (distinctDays_perm hrecent).length_eq]
  split
  · rfl
  · split
    · rfl
    · split
      · rfl
      · split
        · rfl
        · exact ordered_hit hrecent

theorem routineSlipping_shuffled (b : Behavior) :
    (routineSlipping b t').map Signal.ordered = (routineSlipping b t).map Signal.ordered := by
  have hhistory := newestFirst_perm (h.behaviorFortnight b.id)
  have hhead := newestFirst_head? (h.behaviorFortnight b.id)
  unfold routineSlipping
  dsimp only
  rw [h.now_eq, hhistory.length_eq, (hhistory.filter _).length_eq, (hhistory.filter _).length_eq]
  refine ordered_unless fun _ => ?_
  refine ordered_unless fun _ => ?_
  refine ordered_unless fun _ => ?_
  refine ordered_bind fun olderRate => ?_
  refine ordered_bind fun recentRate => ?_
  refine ordered_unless fun _ => ?_
  -- Of the newest moment only the time is read.
  generalize (newestFirst (t.behaviorFortnight b.id)).head? = head at hhead
  generalize (newestFirst (t'.behaviorFortnight b.id)).head? = head' at hhead
  cases hhead with
  | none =>
    refine ordered_unless fun _ => ?_
    exact congrArg Except.ok (ordered_hit hhistory)
  | some htime =>
    simp only [htime]
    refine ordered_unless fun _ => ?_
    exact congrArg Except.ok (ordered_hit hhistory)

theorem highChallengeWeek_shuffled :
    (highChallengeWeek t').map Signal.ordered = (highChallengeWeek t).map Signal.ordered := by
  unfold highChallengeWeek
  dsimp only
  rw [h.positiveWeek.length_eq, h.positiveWeek.isEmpty_eq, h.challengesWeek.length_eq]
  refine ordered_unless fun _ => ?_
  split
  · refine ordered_unless fun _ => ?_
    exact congrArg Except.ok (ordered_hit h.challengesWeek)
  · refine ordered_bind fun ratio => ?_
    refine ordered_unless fun _ => ?_
    exact congrArg Except.ok (ordered_hit (h.challengesWeek.append h.positiveWeek))

theorem ofGoal_shuffled (g : Goal) :
    (ofGoal t' g).map (List.map Signal.ordered) = (ofGoal t g).map (List.map Signal.ordered) := by
  unfold ofGoal
  apply Outcome.map_bind_congr (goalAtRisk_shuffled h g)
  intro risk' risk hrisk
  apply Outcome.map_bind_congr (goalStalled_shuffled h g)
  intro stalled' stalled hstalled
  exact congrArg Except.ok (congrArg₂ (fun x y => [x, y]) hrisk hstalled)

theorem ofRoutine_shuffled (b : Behavior) :
    (ofRoutine t' b).map (List.map Signal.ordered) =
      (ofRoutine t b).map (List.map Signal.ordered) := by
  unfold ofRoutine
  apply Outcome.map_bind_congr (routineSlipping_shuffled h b)
  intro slipping' slipping hslipping
  exact congrArg Except.ok
    (congrArg₂ (fun x y => [x, y]) (routineForming_shuffled h b) hslipping)

theorem all_shuffled (goals : List Goal) (routines : List Behavior) :
    (all goals routines t').map (List.map Signal.ordered) =
      (all goals routines t).map (List.map Signal.ordered) := by
  unfold all
  apply Outcome.map_bind_congr (Outcome.map_mapM_congr (ofGoal_shuffled h) _)
  intro ofGoals' ofGoals hgoals
  apply Outcome.map_bind_congr (Outcome.map_mapM_congr (ofRoutine_shuffled h) _)
  intro ofRoutines' ofRoutines hroutines
  apply Outcome.map_bind_congr (highChallengeWeek_shuffled h)
  intro week' week hweek
  apply congrArg Except.ok
  rw [List.map_append, List.map_append, List.map_append, List.map_append, List.map_flatten,
    List.map_flatten, List.map_flatten, List.map_flatten, hgoals, hroutines, List.map_singleton,
    List.map_singleton, hweek]

end Detect

/-! ## Evaluations -/

theorem Evidence.flaw?_perm {known known' : List String} (h : known'.Perm known) :
    flaw? known' = flaw? known := by
  have hcontains (id : String) : known'.contains id = known.contains id := by
    rw [Bool.eq_iff_iff, List.contains_iff_mem, List.contains_iff_mem]
    exact h.mem_iff
  funext c
  unfold flaw?
  simp only [hcontains]

/-- What is known, with the events given anew. -/
def Source.withEvents (src : Source) (events : String → List Event) : Source :=
  { src with events }

namespace Engine

open Cooldown (Store)

section Shuffled

variable {t t' : Timeline} (h : t.Shuffled t')
include h

theorem statsOf_shuffled (goals : List Goal) (routines : List Behavior) :
    statsOf t' goals routines = statsOf t goals routines := by
  unfold statsOf
  rw [h.now_eq, h.fortnight.length_eq, h.positiveWeek.length_eq, h.challengesWeek.length_eq,
    h.routinesWeek.length_eq]

theorem finish_shuffled (child : Child) : finish child t' = finish child t := by
  have hflaw := Evidence.flaw?_perm h.eventIds
  unfold finish sparse select Evidence.valid Evidence.invalid
  rw [h.now_eq, h.fortnight.length_eq, hflaw]

end Shuffled

variable {src : Source} {events : String → List Event} {childId : String} {child : Child}

theorem survey_shuffled (h : (events childId).Perm (src.events childId)) (store : Store)
    (now : Instant) :
    (survey (src.withEvents events) store childId child now).map ordered =
      (survey src store childId child now).map ordered := by
  have hshuffled := Timeline.shuffled_of_perm h now
  unfold survey Source.withEvents
  dsimp only
  apply Outcome.map_bind_congr (Detect.all_shuffled hshuffled _ _)
  intro signals' signals hsignals
  rw [statsOf_shuffled hshuffled]
  cases store.active now with
  | error f => rfl
  | ok found =>
    cases statsOf (Timeline.ofEvents (src.events childId) now) (src.goals childId) src.routines with
    | error f => rfl
    | ok stats =>
      simp only [Outcome.ok_bind, Outcome.pure_eq_ok, Except.map, ordered, Report.ordered, hsignals]

/-- Events in another order give the same report and the same cards, or the same
failure, but for the order of the cited ids. -/
theorem event_order_does_not_matter {src : Source} {events : String → List Event}
    {childId : String} (h : (events childId).Perm (src.events childId)) (store : Store)
    (now : Instant) :
    (run (src.withEvents events) store childId now).map ordered =
        (run src store childId now).map ordered ∧
      (generate (src.withEvents events) store childId now).map
          (fun x => (x.1.map Card.ordered, x.2)) =
        (generate src store childId now).map (fun x => (x.1.map Card.ordered, x.2)) := by
  have hrun : (run (src.withEvents events) store childId now).map ordered =
      (run src store childId now).map ordered := by
    cases hchild : src.child childId with
    | none =>
      have hchild' : (src.withEvents events).child childId = none := hchild
      unfold run
      rw [hchild, hchild']
    | some child =>
      have hchild' : (src.withEvents events).child childId = some child := hchild
      rw [run_ordered hchild, run_ordered hchild', survey_shuffled h]
      have hfinish := finish_shuffled (Timeline.shuffled_of_perm h now) child
      exact congrArg _ hfinish
  refine ⟨hrun, ?_⟩
  unfold generate
  apply Outcome.map_bind_congr hrun
  intro found' found hfound
  obtain ⟨hreport, hstore⟩ := Prod.mk.inj hfound
  exact congrArg Except.ok (Prod.ext (congrArg Report.selected hreport) hstore)

/-- The three moments, in reverse. -/
theorem event_order_does_not_matter_reversed :
    oldMoments.reverse ≠ oldMoments ∧
      (run (oldSource.withEvents fun _ => oldMoments.reverse) {} "c1" twentiethDay).map ordered =
        (run oldSource {} "c1" twentiethDay).map ordered := by
  have hperm : oldMoments.reverse.Perm (oldSource.events "c1") := by
    have hevents : oldSource.events "c1" = oldMoments := by decide +kernel
    rw [hevents]
    exact List.reverse_perm oldMoments
  refine ⟨by decide +kernel, ?_⟩
  exact (@event_order_does_not_matter oldSource (fun _ => oldMoments.reverse) "c1" hperm {}
    twentiethDay).1

end Engine

end MomentInsights
