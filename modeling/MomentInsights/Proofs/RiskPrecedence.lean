-- Which card has the one place for risk. A goal at risk always has the highest priority, and
-- a hard week never has it. So an accepted card of a goal at risk takes the place from the card
-- of a hard week, and of several such cards the one of least id takes it. The place is taken
-- before the resting cards are left out, so it stays empty if the template rests.
import MomentInsights.Proofs.ReportAccounts
import MomentInsights.Proofs.Selection
import MomentInsights.Proofs.SignalOrder

namespace MomentInsights

/-! ## Priorities -/

namespace Card

theorem deadlineBoost_nonneg (s : Signal) : 0 ≤ deadlineBoost s := by
  unfold deadlineBoost
  split
  · split
    · decide
    · split <;> decide
  · decide

theorem deadlineBoost_of_ne {s : Signal} (h : s.kind ≠ .goalAtRisk) : deadlineBoost s = 0 := by
  unfold deadlineBoost
  split
  · rename_i hkind _
    exact absurd hkind h
  · rfl

/-- A hit on a goal at risk has the highest priority by its week alone, however soon the goal
is due and however far behind it is. -/
theorem priorityFor_goalAtRisk {s : Signal} (hkind : s.kind = .goalAtRisk)
    (hweek : s.evidence.window = .week) :
    priorityFor (Template.ofSignal s.kind) s = Priority.critical.level := by
  have hboost := deadlineBoost_nonneg s
  rw [hkind]
  unfold priorityFor Template.ofSignal Priority.level
  dsimp only
  rw [if_pos hweek]
  split <;> split <;> omega

/-- A hard week has less, however sure it is. -/
theorem priorityFor_highChallengeWeek {s : Signal} (hkind : s.kind = .highChallengeWeek) :
    priorityFor (Template.ofSignal s.kind) s < Priority.critical.level := by
  have hboost : deadlineBoost s = 0 := deadlineBoost_of_ne (by rw [hkind]; decide)
  rw [hkind]
  unfold priorityFor Template.ofSignal Priority.level
  dsimp only
  rw [hboost, if_neg (by decide : ActionKind.history ≠ .addMoment)]
  split <;> split <;> omega

end Card

/-! ## The rank of risk cards -/

namespace Ranking

theorem rank_of_priority {a b : Card} (h : b.priority < a.priority) : rank a b = .lt := by
  unfold rank
  rw [compare_lt_iff_lt.mpr h]
  rfl

/-- Between cards that agree in all else the id decides. -/
theorem rank_of_alike {a b : Card} (hpriority : a.priority = b.priority)
    (hwindow : a.windowDays = b.windowDays) (hevidence : a.eventIds = b.eventIds)
    (htemplate : a.templateId = b.templateId) : rank a b = compareOn Card.id a b := by
  unfold rank
  rw [hpriority, hwindow, hevidence, htemplate]
  simp [compareOn]

end Ranking

theorem onRisk_of_atRisk {c : Card} (h : c.templateId = SignalKind.goalAtRisk.name) :
    Ranking.Rail.risk.holds c = true := Ranking.Rail.holds_of_kind .risk h

theorem onRisk_of_hardWeek {c : Card} (h : c.templateId = SignalKind.highChallengeWeek.name) :
    Ranking.Rail.risk.holds c = true := Ranking.Rail.holds_of_kind .risk h

/-- The cards of goals at risk are among those of risk. -/
theorem cardsOf_onRisk (cards : List Card) :
    (cards.filter Ranking.Rail.risk.holds).filter (·.templateId == SignalKind.goalAtRisk.name) =
      SignalKind.goalAtRisk.cardsOf cards := by
  unfold SignalKind.cardsOf
  rw [List.filter_filter]
  apply List.filter_congr
  intro c _
  cases h : c.templateId == SignalKind.goalAtRisk.name with
  | false => rfl
  | true => simp [onRisk_of_atRisk (beq_iff_eq.mp h)]

/-- The risk cards are those of the two kinds. -/
theorem kind_of_risk {signals : List Signal} {child : Child} {now : Instant} {built : List Card}
    (hbuilt : signals.mapM (Card.ofSignal · child now) = .ok built) {c : Card} (hc : c ∈ built)
    (hrisk : Ranking.Rail.risk.holds c = true) :
    c.templateId = SignalKind.goalAtRisk.name ∨
      c.templateId = SignalKind.highChallengeWeek.name := by
  obtain ⟨s, -, hcard⟩ := Outcome.exists_of_mem_mapM hbuilt hc
  have htemplate := (Card.from_ofSignal hcard).templateId
  rw [Ranking.Rail.holds_of_kind .risk htemplate, decide_eq_true_eq] at hrisk
  rw [htemplate]
  cases hkind : s.kind <;> rw [hkind] at hrisk
  · exact Or.inl rfl
  · cases hrisk
  · cases hrisk
  · cases hrisk
  · exact Or.inr rfl

/-- The goal is at risk, and this is its card. -/
def WarnsOf (child : Child) (t : Timeline) (c : Card) (g : Goal) : Prop :=
  ∃ s, Detect.goalAtRisk g t = .ok s ∧ s.triggered = true ∧ Card.ofSignal s child t.now = .ok c

section Built

variable {goals : List Goal} {routines : List Behavior} {t : Timeline} {signals : List Signal}
  {child : Child} {built : List Card}
  (hall : Detect.all goals routines t = .ok signals)
  (hbuilt : (signals.filter (·.triggered)).mapM (Card.ofSignal · child t.now) = .ok built)
include hall hbuilt

/-- A card comes from a hit of its kind. -/
theorem exists_hit_of_built {c : Card} (hc : c ∈ built) {kind : SignalKind}
    (htemplate : c.templateId = kind.name) :
    ∃ s, s.triggered = true ∧ s.kind = kind ∧ FoundAs (Goal.activeOnly goals) routines t s kind ∧
      Card.ofSignal s child t.now = .ok c := by
  obtain ⟨s, hs, hcard⟩ := Outcome.exists_of_mem_mapM hbuilt hc
  have hkind : s.kind = kind := by
    apply SignalKind.name_injective
    rw [← (Card.from_ofSignal hcard).templateId, htemplate]
  have hfound := foundAs_of_all hall s (List.mem_of_mem_filter hs)
  rw [hkind] at hfound
  exact ⟨s, List.of_mem_filter hs, hkind, hfound, hcard⟩

/-- The cards of goals at risk differ in their ids only, as far as the rank looks at them. -/
theorem atRisk_of_built {c : Card} (hc : c ∈ built)
    (htemplate : c.templateId = SignalKind.goalAtRisk.name) :
    c.priority = Priority.critical.level ∧ c.windowDays = Window.week.days ∧
      c.eventIds = t.positiveWeek.map (·.id) := by
  obtain ⟨s, hs, hkind, ⟨g, -, hdetect⟩, hcard⟩ := exists_hit_of_built hall hbuilt hc htemplate
  have hfrom := Card.from_ofSignal hcard
  obtain ⟨-, hweek⟩ := (Detect.goalAtRisk_gives hdetect).of_hit hs
  refine ⟨?_, ?_, ?_⟩
  · rw [hfrom.priority, Card.priorityFor_goalAtRisk hkind hweek]
  · rw [hfrom.windowDays, hweek]
  · rw [hfrom.eventIds, (Detect.goalAtRisk_detected hdetect).cites hs]

theorem hardWeek_of_built {c : Card} (hc : c ∈ built)
    (htemplate : c.templateId = SignalKind.highChallengeWeek.name) :
    c.priority < Priority.critical.level := by
  obtain ⟨s, -, hkind, -, hcard⟩ := exists_hit_of_built hall hbuilt hc htemplate
  rw [(Card.from_ofSignal hcard).priority]
  exact Card.priorityFor_highChallengeWeek hkind

/-- Of some of the cards the rails keep one of risk. If a goal is at risk, it is the card of
least id among those of goals at risk. -/
theorem risk_kept {cards : List Card} (hsub : ∀ c ∈ cards, c ∈ built)
    (hrisk : ∃ c ∈ cards, c.templateId = SignalKind.goalAtRisk.name) :
    ∃ kept, (Ranking.safetyRails cards).1.filter Ranking.Rail.risk.holds = [kept] ∧
      Order.FirstLeast (compareOn Card.id) (SignalKind.goalAtRisk.cardsOf cards) kept := by
  obtain ⟨c, hc, htemplate⟩ := hrisk
  obtain ⟨kept, hkept, hfirst⟩ := Ranking.safetyRails_risk ⟨c, hc, onRisk_of_atRisk htemplate⟩
  obtain ⟨hmem, hkeptRisk⟩ := List.mem_filter.mp hfirst.mem
  -- A hard week would stand behind the goal at risk.
  have hkeptTemplate : kept.templateId = SignalKind.goalAtRisk.name := by
    rcases kind_of_risk hbuilt (hsub kept hmem) hkeptRisk with h | h
    · exact h
    · exfalso
      have hlt : Ranking.rank c kept = .lt := by
        apply Ranking.rank_of_priority
        rw [(atRisk_of_built hall hbuilt (hsub c hc) htemplate).1]
        exact hardWeek_of_built hall hbuilt (hsub kept hmem) h
      have hle := hfirst.isLE (List.mem_filter.mpr ⟨hc, onRisk_of_atRisk htemplate⟩)
      rw [Std.OrientedCmp.gt_of_lt hlt] at hle
      cases hle
  refine ⟨kept, hkept, ?_⟩
  have hleast : Order.FirstLeast Ranking.rank
      ((cards.filter Ranking.Rail.risk.holds).filter (·.templateId == SignalKind.goalAtRisk.name)) kept :=
    hfirst.filter (beq_iff_eq.mpr hkeptTemplate)
  rw [cardsOf_onRisk] at hleast
  apply hleast.congr
  intro a ha
  obtain ⟨ha, haTemplate⟩ := List.mem_filter.mp ha
  obtain ⟨hpriority, hwindow, hevidence⟩ :=
    atRisk_of_built hall hbuilt (hsub kept hmem) hkeptTemplate
  obtain ⟨hpriority', hwindow', hevidence'⟩ :=
    atRisk_of_built hall hbuilt (hsub a ha) (beq_iff_eq.mp haTemplate)
  symm
  apply Ranking.rank_of_alike
  · rw [hpriority, hpriority']
  · rw [hwindow, hwindow']
  · rw [hevidence, hevidence']
  · rw [hkeptTemplate, beq_iff_eq.mp haTemplate]

/-- The cards of goals at risk come in the order of the goals. -/
theorem atRisk_listed : List.SublistForall₂ (WarnsOf child t)
    (SignalKind.goalAtRisk.cardsOf built) goals := by
  have hactive := Outcome.sublistForall₂_of_mapM (Detect.all_ofKind hall .goalAtRisk)
    (Card.mapM_cardsOf hbuilt .goalAtRisk)
  obtain ⟨listed, hlisted, hsub⟩ := List.sublistForall₂_iff.mp hactive
  exact List.sublistForall₂_iff.mpr ⟨listed, hlisted, hsub.trans List.filter_sublist⟩

/-- They cite the same events, so the check accepts all or none. -/
theorem cardsOf_valid {known : List String}
    (hvalid : ∃ c ∈ Evidence.valid known built, c.templateId = SignalKind.goalAtRisk.name) :
    SignalKind.goalAtRisk.cardsOf (Evidence.valid known built) =
      SignalKind.goalAtRisk.cardsOf built := by
  obtain ⟨c, hc, htemplate⟩ := hvalid
  obtain ⟨hc, haccepted⟩ := List.mem_filter.mp hc
  unfold SignalKind.cardsOf Evidence.valid
  rw [List.filter_filter]
  apply List.filter_congr
  intro a ha
  cases h : a.templateId == SignalKind.goalAtRisk.name with
  | false => rfl
  | true =>
    have htemplate' := beq_iff_eq.mp h
    have hflaw : Evidence.flaw? known a = Evidence.flaw? known c := by
      unfold Evidence.flaw?
      rw [(atRisk_of_built hall hbuilt ha htemplate').2.2,
        (atRisk_of_built hall hbuilt hc htemplate).2.2, htemplate', htemplate]
    rw [hflaw, haccepted]
    rfl

end Built

/-! ## Evaluations -/

namespace Engine

open Cooldown (Store)

/-- The card has the one place for risk, and is shown unless its template rests. -/
structure HoldsRisk (store : Store) (now : Instant) (valid : List Card) (r : Report) (c : Card) :
    Prop where
  kept : (Ranking.safetyRails valid).1.filter Ranking.Rail.risk.holds = [c]
  least : Order.FirstLeast (compareOn Card.id) (SignalKind.goalAtRisk.cardsOf valid) c
  selected : r.selected.filter Ranking.Rail.risk.holds = if isFree store now c then [c] else []
  resting : isFree store now c = false → ∃ d ∈ r.dropped, d.card = c ∧ d.reason = .cooldownActive

/-- The cards of hard weeks are dropped for the rail. -/
structure YieldsRisk (r : Report) : Prop where
  unselected : ∀ c ∈ r.selected, c.templateId ≠ SignalKind.highChallengeWeek.name
  dropped : ∀ c ∈ r.built, c.templateId = SignalKind.highChallengeWeek.name →
    Ranking.riskDrop c ∈ r.dropped
  only : ∀ d ∈ r.dropped, d.card.templateId = SignalKind.highChallengeWeek.name →
    d = Ranking.riskDrop d.card

section Evaluated

variable {child : Child} {rs : List Cooldown.Record} {r : Report} {c : Card}

theorem Evaluates.holdsRisk {t : Timeline} {store store' : Store}
    (hr : Evaluates child t store.periods rs r) (hrecords : store.records = .ok (rs, store'))
    (hkept : (Ranking.safetyRails (Evidence.valid t.eventIds r.built)).1.filter
      Ranking.Rail.risk.holds = [c])
    (hleast : Order.FirstLeast (compareOn Card.id)
      (SignalKind.goalAtRisk.cardsOf (Evidence.valid t.eventIds r.built)) c) :
    HoldsRisk store t.now (Evidence.valid t.eventIds r.built) r c := by
  have hfree := isFree_of_records hrecords t.now c
  refine ⟨hkept, hleast, ?_, ?_⟩
  · rw [hr.selected, List.filter_comm, hkept, List.filter_singleton, hfree]
    cases Store.resting store.periods rs t.now c.shownPair <;> rfl
  · intro hrests
    rw [hfree, Bool.not_eq_false'] at hrests
    have hmem : c ∈ (Ranking.safetyRails (Evidence.valid t.eventIds r.built)).1 := by
      apply List.mem_of_mem_filter
      rw [hkept]
      exact List.mem_singleton_self c
    let ends := (Store.find? rs c.templateId c.childId).map store.periods.endOf
    refine ⟨Ranking.cooldownDrop c ends, ?_, rfl, rfl⟩
    rw [hr.dropped]
    exact List.mem_append_right _ (List.mem_map_of_mem (List.mem_filter.mpr ⟨hmem, hrests⟩))

variable {es : List Event} {now : Instant} {p : Cooldown.Periods}
  (hr : Evaluates child (Timeline.ofEvents es now) p rs r)
include hr

/-- The card of a hard week passes the check of its evidence. -/
theorem Evaluates.hardWeek_flawless {a : Card} (ha : a ∈ r.built)
    (htemplate : a.templateId = SignalKind.highChallengeWeek.name) :
    Evidence.flaw? (Timeline.ofEvents es now).eventIds a = none := by
  have htriggered := detects_of_triggered hr.detected
  obtain ⟨s, hs, hname, hids, -⟩ := exists_signal_of_built htriggered hr.built ha
  have hkind : s.kind = .highChallengeWeek := by
    apply SignalKind.name_injective
    rw [← hname, htemplate]
  apply ((htriggered s hs).flaw_iff (List.of_mem_filter hs) hname hids).mpr
  rw [hkind]
  intro h
  cases h

theorem Evaluates.yieldsRisk
    (hkept : (Ranking.safetyRails (Evidence.valid (Timeline.ofEvents es now).eventIds r.built)).1.filter
      Ranking.Rail.risk.holds = [c])
    (hc : c.templateId = SignalKind.goalAtRisk.name) : YieldsRisk r := by
  let rails := Ranking.safetyRails (Evidence.valid (Timeline.ofEvents es now).eventIds r.built)
  have hnotKept : ∀ a ∈ rails.1, a.templateId ≠ SignalKind.highChallengeWeek.name := by
    intro a ha htemplate
    have hmem : a ∈ rails.1.filter Ranking.Rail.risk.holds :=
      List.mem_filter.mpr ⟨ha, onRisk_of_hardWeek htemplate⟩
    rw [show rails.1.filter Ranking.Rail.risk.holds = [c] from hkept, List.mem_singleton] at hmem
    rw [hmem, hc] at htemplate
    exact absurd htemplate (by decide)
  have hrailDrop : ∀ d ∈ rails.2, d.card.templateId = SignalKind.highChallengeWeek.name →
      d = Ranking.riskDrop d.card := by
    intro d hd htemplate
    rcases Ranking.walkRails_drop _ _ _ d hd with ⟨-, hdrop⟩ | ⟨hrail, -⟩
    · exact hdrop
    · rw [of_decide_eq_true (onRisk_of_hardWeek htemplate)] at hrail
      cases hrail
  refine ⟨?_, ?_, ?_⟩
  · intro a ha
    rw [hr.selected] at ha
    exact hnotKept a (List.mem_of_mem_filter ha)
  · intro a ha htemplate
    have hvalid : a ∈ Evidence.valid (Timeline.ofEvents es now).eventIds r.built :=
      List.mem_filter.mpr ⟨ha, by rw [hr.hardWeek_flawless ha htemplate]; rfl⟩
    rw [(Ranking.safetyRails_splits _).perm.mem_iff, List.mem_append] at hvalid
    rcases hvalid with hkept | hdropped
    · exact absurd htemplate (hnotKept a hkept)
    · obtain ⟨d, hd, rfl⟩ := List.mem_map.mp hdropped
      rw [← hrailDrop d hd htemplate, hr.dropped]
      exact List.mem_append_left _ (List.mem_append_right _ hd)
  · intro d hd htemplate
    rw [hr.dropped, List.mem_append, List.mem_append] at hd
    rcases hd with (hd | hd) | hd
    · obtain ⟨x, hx, rfl⟩ := List.mem_map.mp hd
      obtain ⟨a, ha, hflaw⟩ := List.mem_filterMap.mp hx
      obtain ⟨f, hf, rfl⟩ := Option.map_eq_some_iff.mp hflaw
      rw [hr.hardWeek_flawless ha htemplate] at hf
      cases hf
    · exact hrailDrop d hd htemplate
    · obtain ⟨a, ha, rfl⟩ := List.mem_map.mp hd
      exact absurd htemplate (hnotKept a (List.mem_of_mem_filter ha))

end Evaluated

/-- In every evaluation with an accepted card of a goal at risk, the card of least id among
these, the first listed of several, has the one place for risk, and a hard week is dropped for
the rail, also where the card that has the place is itself dropped because its template
rests. -/
theorem risk_takes_precedence {src : Source} {store store' : Store} {childId : String}
    {now : Instant} {r : Report} (hrun : run src store childId now = .ok (r, store'))
    (hrisk : ∃ c ∈ Evidence.valid (Timeline.ofEvents (src.events childId) now).eventIds r.built,
      c.templateId = SignalKind.goalAtRisk.name) :
    let t := Timeline.ofEvents (src.events childId) now
    let valid := Evidence.valid t.eventIds r.built
    YieldsRisk r ∧
      ∃ child c, src.child childId = some child ∧
        List.SublistForall₂ (WarnsOf child t) (SignalKind.goalAtRisk.cardsOf valid)
          (src.goals childId) ∧
        HoldsRisk store now valid r c := by
  intro t valid
  obtain ⟨c₀, hc₀, htemplate⟩ := hrisk
  have hc₀' : c₀ ∈ r.built := List.mem_of_mem_filter hc₀
  cases run_ends hrun with
  | unknown hchild => cases hc₀'
  | few hchild hfew hsurvey =>
    rw [sparse_built hsurvey] at hc₀'
    cases hc₀'
  | full hchild hevents hrecords hall hr =>
    have hbuilt : (r.signals.filter (·.triggered)).mapM (Card.ofSignal · _ t.now) = .ok r.built :=
      hr.built
    obtain ⟨c, hkept, hleast⟩ := risk_kept hall hbuilt
      (fun a (ha : a ∈ valid) => List.mem_of_mem_filter ha) ⟨c₀, hc₀, htemplate⟩
    have hc : c.templateId = SignalKind.goalAtRisk.name :=
      beq_iff_eq.mp (List.mem_filter.mp hleast.mem).2
    refine ⟨hr.yieldsRisk hkept hc, _, c, hchild, ?_, hr.holdsRisk hrecords hkept hleast⟩
    rw [cardsOf_valid hall hbuilt ⟨c₀, hc₀, htemplate⟩]
    exact atRisk_listed hall hbuilt

/-- Three good moments and three challenges on the twentieth day. -/
def hardMoments : List Event :=
  (oldMoments.map fun e =>
      { e with id := e.id ++ "c", time := twentiethDay, category := .negative }) ++
    oldMoments.map fun e => { e with time := twentiethDay }

/-- The child of a hard week, with two goals at risk. The card of the second has the lesser
id. -/
def hardSource : Source :=
  Roster.source {
    children := [oldChild]
    events := hardMoments
    goals := [{ nearGoal with id := "g0", name := "Kite" }, nearGoal]
    behaviors := [] }

/-- A goal at risk was shown just now. -/
def restingStore : Store :=
  { cache := some [.ofPair (SignalKind.goalAtRisk.name, "c1") twentiethDay] }

theorem hardSource_enough : minEvents ≤
    (Timeline.ofEvents (hardSource.events "c1") twentiethDay).fortnight.length := by
  decide +kernel

/-- Three cards are built: for the two goals, and for the week. -/
theorem hardSource_cards :
    (survey hardSource restingStore "c1" oldChild twentiethDay >>= fun x =>
      (x.1.triggered.mapM (Card.ofSignal · oldChild twentiethDay)).map fun built =>
        (built.map (·.templateId),
          (Evidence.valid (hardMoments.map (·.id)) built).map (·.templateId))) =
      .ok (["goal_at_risk", "goal_at_risk", "high_challenge_week"],
        ["goal_at_risk", "goal_at_risk", "high_challenge_week"]) := by
  decide +kernel

/-- None of the three is shown: the one that has the place rests. -/
theorem risk_takes_precedence_hardSource :
    ∃ r store' c, run hardSource restingStore "c1" twentiethDay = .ok (r, store') ∧
      r.built.map (·.templateId) = ["goal_at_risk", "goal_at_risk", "high_challenge_week"] ∧
      YieldsRisk r ∧ isFree restingStore twentiethDay c = false ∧
      HoldsRisk restingStore twentiethDay (Evidence.valid (hardMoments.map (·.id)) r.built) r c := by
  have hchild : hardSource.child "c1" = some oldChild := rfl
  obtain ⟨r, store', rs, hrun, -, hr, hcards⟩ :=
    run_of_cards hchild hardSource_enough hardSource_cards
  obtain ⟨htemplates, hvalid⟩ := Prod.mk.inj hcards
  have hrisk : ∃ c ∈ Evidence.valid (hardMoments.map (·.id)) r.built,
      c.templateId = SignalKind.goalAtRisk.name := by
    apply List.mem_map.mp
    rw [hvalid]
    decide
  obtain ⟨hyields, child, c, -, -, hholds⟩ := risk_takes_precedence hrun hrisk
  refine ⟨r, store', c, hrun, htemplates, hyields, ?_, hholds⟩
  obtain ⟨hc, htemplate⟩ := List.mem_filter.mp hholds.least.mem
  obtain ⟨s, -, -, -, hchildId⟩ := exists_signal_of_built (detects_of_triggered hr.detected)
    hr.built (List.mem_of_mem_filter hc)
  unfold isFree
  rw [beq_iff_eq.mp htemplate, hchildId]
  decide +kernel

end Engine

end MomentInsights
