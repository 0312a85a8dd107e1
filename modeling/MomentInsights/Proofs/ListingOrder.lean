-- The order in which the goals and the routines are listed. The detectors look at
-- them one by one, so another order gives the same signals in another order. The rank
-- puts their cards in order again, unless two of them tie. So the same cards are
-- selected wherever the hash tells the goals apart, and the routines.
import MomentInsights.Proofs.CitedEvidence
import MomentInsights.Proofs.Divisors
import MomentInsights.Proofs.RankTies

namespace MomentInsights

open Outcome (FailsOnly failsOnly_ok failsOnly_bind failsOnly_unless)

/-! ## What may fail -/

theorem inRange_failsOnly (x : Binary64) : FailsOnly .quotientTooLarge (inRange x) := by
  cases x with
  | infinite negative =>
    intro e h
    cases h
    rfl
  | _ => exact failsOnly_ok _ _

theorem quotient_failsOnly {den : Nat} (h : 0 < den) (num : Int) :
    FailsOnly .quotientTooLarge (quotient num den) := by
  rw [quotient_of_pos h]
  exact inRange_failsOnly _

namespace Goal

theorem progress_failsOnly (g : Goal) : FailsOnly .quotientTooLarge g.progress := by
  unfold progress
  refine failsOnly_unless fun htarget => ?_
  refine failsOnly_bind (quotient_failsOnly (by omega) _) fun share _ => ?_
  exact failsOnly_ok _ _

theorem isAtRisk_failsOnly (g : Goal) (now : Instant) :
    FailsOnly .quotientTooLarge (g.isAtRisk now) := by
  unfold isAtRisk
  split
  · exact failsOnly_ok _ _
  · refine failsOnly_unless fun hleft => ?_
    refine failsOnly_bind (quotient_failsOnly (by omega) _) fun pace _ => ?_
    exact failsOnly_ok _ _

end Goal

namespace Detect

variable (t : Timeline)

theorem weeklyRate_failsOnly (n : Int) : FailsOnly .quotientTooLarge (weeklyRate n) :=
  quotient_failsOnly (by decide) n

theorem goalAtRisk_failsOnly (g : Goal) : FailsOnly .quotientTooLarge (goalAtRisk g t) := by
  unfold goalAtRisk
  dsimp only
  split
  · exact failsOnly_ok _ _
  · rename_i days hdays
    refine failsOnly_unless fun hopen => ?_
    have hpos : 0 < days := pos_of_open hopen
    refine failsOnly_unless fun _ => ?_
    refine failsOnly_unless fun hneeded => ?_
    refine failsOnly_bind (quotient_failsOnly (by omega) _) fun paceNeeded hpace => ?_
    refine failsOnly_bind (weeklyRate_failsOnly _) fun pace _ => ?_
    refine failsOnly_unless fun _ => ?_
    rw [realQuotient_of_nonzero (isZero_pace (by omega) (Goal.daysRemaining_le hdays) hpace),
      Outcome.ok_bind]
    refine failsOnly_bind g.progress_failsOnly fun progress _ => ?_
    exact failsOnly_ok _ _

theorem goalStalled_failsOnly (g : Goal) : FailsOnly .quotientTooLarge (goalStalled g t) := by
  unfold goalStalled
  dsimp only
  refine failsOnly_unless fun _ => ?_
  refine failsOnly_unless fun _ => ?_
  refine failsOnly_unless fun _ => ?_
  split
  · exact failsOnly_ok _ _
  · refine failsOnly_bind g.progress_failsOnly fun progress _ => ?_
    exact failsOnly_ok _ _

theorem routineSlipping_failsOnly (b : Behavior) :
    FailsOnly .quotientTooLarge (routineSlipping b t) := by
  unfold routineSlipping
  dsimp only
  refine failsOnly_unless fun _ => ?_
  refine failsOnly_unless fun _ => ?_
  refine failsOnly_unless fun _ => ?_
  refine failsOnly_bind (weeklyRate_failsOnly _) fun olderRate _ => ?_
  refine failsOnly_bind (weeklyRate_failsOnly _) fun recentRate _ => ?_
  refine failsOnly_unless fun _ => ?_
  refine failsOnly_unless fun _ => ?_
  exact failsOnly_ok _ _

theorem highChallengeWeek_failsOnly : FailsOnly .quotientTooLarge (highChallengeWeek t) := by
  unfold highChallengeWeek
  dsimp only
  refine failsOnly_unless fun _ => ?_
  split
  · refine failsOnly_unless fun _ => ?_
    exact failsOnly_ok _ _
  · rename_i hsome
    refine failsOnly_bind (quotient_failsOnly (length_pos_of_some hsome) _) fun ratio _ => ?_
    refine failsOnly_unless fun _ => ?_
    exact failsOnly_ok _ _

theorem ofGoal_failsOnly (g : Goal) : FailsOnly .quotientTooLarge (ofGoal t g) := by
  unfold ofGoal
  refine failsOnly_bind (goalAtRisk_failsOnly t g) fun risk _ => ?_
  refine failsOnly_bind (goalStalled_failsOnly t g) fun stalled _ => ?_
  exact failsOnly_ok _ _

theorem ofRoutine_failsOnly (b : Behavior) : FailsOnly .quotientTooLarge (ofRoutine t b) := by
  unfold ofRoutine
  refine failsOnly_bind (routineSlipping_failsOnly t b) fun slipping _ => ?_
  exact failsOnly_ok _ _

/-- The same signals, in another order. -/
theorem all_perm {goals goals' : List Goal} {routines routines' : List Behavior}
    (hgoals : goals'.Perm goals) (hroutines : routines'.Perm routines) :
    (all goals' routines' t).map Multiset.ofList = (all goals routines t).map Multiset.ofList := by
  unfold all
  -- Several goals may fail, but they fail alike, so it does not show which comes first.
  apply Outcome.map_bind_congr
    (Outcome.mapM_perm (hgoals.filter _) fun g _ => ofGoal_failsOnly t g)
  intro ofGoals' ofGoals hofGoals
  apply Outcome.map_bind_congr (Outcome.mapM_perm hroutines fun b _ => ofRoutine_failsOnly t b)
  intro ofRoutines' ofRoutines hofRoutines
  apply Outcome.map_bind_congr (n := id) rfl
  intro week' week hweek
  apply congrArg Except.ok
  rw [Multiset.coe_eq_coe] at hofGoals hofRoutines ⊢
  rw [show week' = week from hweek]
  exact (hofGoals.flatten.append hofRoutines.flatten).append_right [week]

end Detect

/-! ## What the ids of cards tell -/

/-- The window that the hits of the kind cite. -/
def SignalKind.window : SignalKind → Window
  | .goalAtRisk => .week
  | .goalStalled => .fortnight
  | .routineForming => .week
  | .routineSlipping => .fortnight
  | .highChallengeWeek => .week

/-- The names are none of them empty and all different, and the ids of cards of the
kinds tell them apart: the hash is the same for two keys only if they are the same. -/
structure StableId.Distinguishes (kinds : List SignalKind) (childId : String)
    (names : List String) : Prop where
  nonempty : ∀ a ∈ names, a ≠ ""
  nodup : names.Nodup
  apart : ∀ kind ∈ kinds, ∀ a ∈ names, ∀ b ∈ names,
    hash (key kind.name childId (some a) kind.window.days) =
        hash (key kind.name childId (some b) kind.window.days) →
      key kind.name childId (some a) kind.window.days =
        key kind.name childId (some b) kind.window.days

namespace StableId.Distinguishes

variable {kinds : List SignalKind} {childId : String}

theorem sublist {names names' : List String} (h : Distinguishes kinds childId names)
    (hsub : names'.Sublist names) : Distinguishes kinds childId names' where
  nonempty a ha := h.nonempty a (hsub.subset ha)
  nodup := h.nodup.sublist hsub
  apart kind hkind a ha b hb := h.apart kind hkind a (hsub.subset ha) b (hsub.subset hb)

theorem eq_of_hash {α : Type} {name : α → String} {xs : List α}
    (h : Distinguishes kinds childId (xs.map name)) {kind : SignalKind} (hkind : kind ∈ kinds)
    {x y : α} (hx : x ∈ xs) (hy : y ∈ xs)
    (hhash : hash (key kind.name childId (some (name x)) kind.window.days) =
      hash (key kind.name childId (some (name y)) kind.window.days)) : x = y := by
  have hx' : name x ∈ xs.map name := List.mem_map_of_mem hx
  have hy' : name y ∈ xs.map name := List.mem_map_of_mem hy
  apply List.inj_on_of_nodup_map h.nodup hx hy
  exact key_injective (h.nonempty _ hx') (h.nonempty _ hy') (h.apart kind hkind _ hx' _ hy' hhash)

end StableId.Distinguishes

/-- What the id of a signal's card is made from. -/
def Signal.key (childId : String) (s : Signal) : String :=
  StableId.key s.kind.name childId s.details.entityId s.evidence.window.days

theorem Card.From.stableKey {s : Signal} {child : Child} {now : Instant} {c : Card}
    (h : c.From s child now) : c.stableKey = s.key child.id := by
  unfold Card.stableKey Signal.key
  rw [h.templateId, h.childId, h.entityId, h.windowDays]

/-! ## Hits of one rank -/

theorem TellsGoal.firstNamed {g : Goal} {d : SignalDetails} (h : TellsGoal g d) :
    d.entityId = MomentInsights.firstNamed (some g.id) none := by
  unfold SignalDetails.entityId
  rw [h.goalId, h.behaviorId]

theorem TellsGoal.entityId {g : Goal} {d : SignalDetails} (h : TellsGoal g d) (hid : g.id ≠ "") :
    d.entityId = some g.id := by
  rw [h.firstNamed]
  exact if_neg hid

theorem TellsRoutine.entityId {b : Behavior} {d : SignalDetails} (h : TellsRoutine b d) :
    d.entityId = some b.id := by
  unfold SignalDetails.entityId firstNamed
  rw [h.goalId, h.behaviorId]

theorem Gives.key {kind : SignalKind} {es : List Event} {told : SignalDetails → Prop} {s : Signal}
    (h : Gives kind es kind.window told s) (hs : s.triggered = true) {name : Option String}
    (hname : ∀ d, told d → d.entityId = name) (childId : String) :
    s.key childId = StableId.key kind.name childId name kind.window.days := by
  cases h with
  | miss reason => cases hs
  | hit htold =>
    unfold Signal.key
    rw [← hname _ htold]
    rfl

section Listed

variable {goals : List Goal} {routines : List Behavior} {t : Timeline} {childId : String}
  (hgoals : StableId.Distinguishes [.goalAtRisk, .goalStalled] childId (goals.map (·.id)))
  (hroutines : StableId.Distinguishes [.routineForming, .routineSlipping] childId
    (routines.map (·.id)))
include hgoals hroutines

/-- Two hits of one kind whose keys have one hash are the same hit. -/
theorem hit_eq_of_hash {s s' : Signal} (h : FoundAs goals routines t s s.kind)
    (h' : FoundAs goals routines t s' s'.kind) (hs : s.triggered = true)
    (hs' : s'.triggered = true) (hkind : s'.kind = s.kind)
    (hhash : StableId.hash (s.key childId) = StableId.hash (s'.key childId)) : s = s' := by
  have hgoal {g : Goal} (hg : g ∈ goals) {enough : Prop} (d : SignalDetails)
      (hd : enough ∧ TellsGoal g d) : d.entityId = some g.id :=
    hd.2.entityId (hgoals.nonempty g.id (List.mem_map_of_mem hg))
  have hroutine {b : Behavior} {enough : Prop} (d : SignalDetails)
      (hd : enough ∧ TellsRoutine b d) : d.entityId = some b.id := hd.2.entityId
  rw [hkind] at h'
  -- The kind says which detector it was, and one goal or routine gives it one hit.
  cases hk : s.kind <;> rw [hk] at h h'
  · obtain ⟨g, hg, hdetect⟩ := h
    obtain ⟨g', hg', hdetect'⟩ := h'
    rw [(Detect.goalAtRisk_gives hdetect).key hs (hgoal hg),
      (Detect.goalAtRisk_gives hdetect').key hs' (hgoal hg')] at hhash
    rw [hgoals.eq_of_hash (by decide) hg hg' hhash, hdetect'] at hdetect
    exact (Except.ok.inj hdetect).symm
  · obtain ⟨g, hg, hdetect⟩ := h
    obtain ⟨g', hg', hdetect'⟩ := h'
    rw [(Detect.goalStalled_gives hdetect).key hs (hgoal hg),
      (Detect.goalStalled_gives hdetect').key hs' (hgoal hg')] at hhash
    rw [hgoals.eq_of_hash (by decide) hg hg' hhash, hdetect'] at hdetect
    exact (Except.ok.inj hdetect).symm
  · obtain ⟨b, hb, rfl⟩ := h
    obtain ⟨b', hb', rfl⟩ := h'
    rw [(Detect.routineForming_gives b t).key hs hroutine,
      (Detect.routineForming_gives b' t).key hs' hroutine] at hhash
    rw [hroutines.eq_of_hash (by decide) hb hb' hhash]
  · obtain ⟨b, hb, hdetect⟩ := h
    obtain ⟨b', hb', hdetect'⟩ := h'
    rw [(Detect.routineSlipping_gives hdetect).key hs hroutine,
      (Detect.routineSlipping_gives hdetect').key hs' hroutine] at hhash
    rw [hroutines.eq_of_hash (by decide) hb hb' hhash, hdetect'] at hdetect
    exact (Except.ok.inj hdetect).symm
  · have hdetect : Detect.highChallengeWeek t = .ok s := h
    have hdetect' : Detect.highChallengeWeek t = .ok s' := h'
    rw [hdetect'] at hdetect
    exact (Except.ok.inj hdetect).symm

end Listed

theorem SignalKind.name_injective {k k' : SignalKind} (h : k.name = k'.name) : k = k' := by
  have hname := ofName?_name k
  rw [h, ofName?_name] at hname
  exact (Option.some.inj hname).symm

/-- So no two different cards of an evaluation tie. -/
theorem untied_of_built {goals : List Goal} {routines : List Behavior} {t : Timeline}
    {child : Child} {signals : List Signal} {built : List Card}
    (hgoals : StableId.Distinguishes [.goalAtRisk, .goalStalled] child.id (goals.map (·.id)))
    (hroutines : StableId.Distinguishes [.routineForming, .routineSlipping] child.id
      (routines.map (·.id)))
    (hall : Detect.all goals routines t = .ok signals)
    (hbuilt : (signals.filter (·.triggered)).mapM (Card.ofSignal · child t.now) = .ok built) :
    (∀ c ∈ built, c.HasStableId) ∧ Untied built := by
  have hactive := hgoals.sublist ((List.filter_sublist (p := Goal.isActive)).map _)
  have hfound := foundAs_of_all hall
  constructor
  · intro c hc
    obtain ⟨s, -, hcard⟩ := Outcome.exists_of_mem_mapM hbuilt hc
    exact (Card.from_ofSignal hcard).id
  · intro a ha b hb hties
    obtain ⟨s, hs, hcard⟩ := Outcome.exists_of_mem_mapM hbuilt ha
    obtain ⟨s', hs', hcard'⟩ := Outcome.exists_of_mem_mapM hbuilt hb
    have hfrom := Card.from_ofSignal hcard
    have hfrom' := Card.from_ofSignal hcard'
    have hkind : s'.kind = s.kind := by
      apply SignalKind.name_injective
      rw [← hfrom.templateId, ← hfrom'.templateId, hties.templateId]
    have hhash := hties.hash
    rw [hfrom.stableKey, hfrom'.stableKey] at hhash
    have hsame : s = s' := hit_eq_of_hash hactive hroutines
      (hfound s (List.mem_of_mem_filter hs)) (hfound s' (List.mem_of_mem_filter hs'))
      (List.of_mem_filter hs) (List.of_mem_filter hs') hkind hhash
    rw [hsame, hcard'] at hcard
    exact (Except.ok.inj hcard).symm

/-! ## Evaluations -/

/-- What is known, with the goals and the routines listed anew. -/
def Source.listed (src : Source) (goals : String → List Goal) (routines : List Behavior) : Source :=
  { src with goals, routines }

namespace Engine

open Cooldown (Store)

theorem statsOf_perm {goals goals' : List Goal} {routines routines' : List Behavior}
    (hgoals : goals'.Perm goals) (hroutines : routines'.Perm routines) (t : Timeline) :
    statsOf t goals' routines' = statsOf t goals routines := by
  have hactive : (Goal.activeOnly goals').Perm (Goal.activeOnly goals) := hgoals.filter _
  have hdeadlines : (Goal.withDeadlines (Goal.activeOnly goals')).Perm
      (Goal.withDeadlines (Goal.activeOnly goals)) := hactive.filter _
  have hatRisk := Outcome.filterM_length_perm hactive fun g _ => g.isAtRisk_failsOnly t.now
  unfold statsOf Goal.atRisk
  dsimp only
  rw [hactive.length_eq, hdeadlines.length_eq, hroutines.length_eq]
  cases hx : (Goal.activeOnly goals').filterM (Goal.isAtRisk · t.now) <;>
    cases hy : (Goal.activeOnly goals).filterM (Goal.isAtRisk · t.now) <;>
    rw [hx, hy] at hatRisk
  · cases hatRisk
    rfl
  · cases hatRisk
  · cases hatRisk
  · have hlength := Except.ok.inj hatRisk
    rw [Outcome.ok_bind, Outcome.ok_bind, hlength]

/-- What a survey tells, with its signals in no order. -/
def unordered (x : Report × Store) : Report × Multiset Signal × Store :=
  ({ x.1 with signals := [] }, Multiset.ofList x.1.signals, x.2)

section Listed

variable {src : Source} {goals : String → List Goal} {routines : List Behavior} {childId : String}
  {child : Child}

theorem survey_listed (hgoals : (goals childId).Perm (src.goals childId))
    (hroutines : routines.Perm src.routines) (store : Store) (now : Instant) :
    (survey (src.listed goals routines) store childId child now).map unordered =
      (survey src store childId child now).map unordered := by
  unfold survey Source.listed
  dsimp only
  apply Outcome.map_bind_congr (Detect.all_perm _ hgoals hroutines)
  intro signals' signals hsignals
  rw [statsOf_perm hgoals hroutines]
  cases store.active now with
  | error f => rfl
  | ok found =>
    cases statsOf (Timeline.ofEvents (src.events childId) now) (src.goals childId) src.routines with
    | error f => rfl
    | ok stats =>
      simp only [Outcome.ok_bind, Outcome.pure_eq_ok, Except.map, unordered, hsignals]

/-- For signals in another order the same cards are shown, if no two of them tie. -/
theorem finish_perm {t : Timeline} {r r' : Report} {store : Store}
    (hperm : r'.signals.Perm r.signals) (hdetected : ∀ s ∈ r'.signals, Detects t s)
    (hbuilt : ∀ built, r.triggered.mapM (Card.ofSignal · child t.now) = .ok built →
      (∀ c ∈ built, c.HasStableId) ∧ Untied built) :
    (finish child t (r', store)).map shown = (finish child t (r, store)).map shown := by
  by_cases hfew : t.fortnight.length < minEvents
  · rw [finish_few hfew, finish_few hfew]
    rfl
  have henough := Nat.not_lt.mp hfew
  rw [finish_enough henough, finish_enough henough]
  have htotal : ∀ s ∈ r'.triggered,
      FailsOnly .quotientTooLarge (Card.ofSignal s child t.now) := by
    intro s hs
    obtain ⟨c, hc, -⟩ := (detects_of_triggered hdetected s hs).card child t.now
    rw [hc]
    exact failsOnly_ok _ c
  unfold select
  dsimp only
  apply Outcome.map_bind_congr_of_ok (Outcome.mapM_perm (hperm.filter _) htotal)
  intro built' built _ hok hcards
  obtain ⟨hids, huntied⟩ := hbuilt built hok
  have hvalid : (Evidence.valid t.eventIds built').Perm (Evidence.valid t.eventIds built) :=
    (Multiset.coe_eq_coe.mp hcards).filter _
  have hsub {c : Card} (hc : c ∈ Evidence.valid t.eventIds built) : c ∈ built :=
    List.mem_of_mem_filter hc
  rw [Ranking.safetyRails_perm (fun c hc => hids c (hsub hc))
    (fun a ha b hb => huntied a (hsub ha) b (hsub hb)) hvalid]
  apply Outcome.map_bind_congr (n := id) rfl
  rintro available' available rfl
  rfl

/-- Goals and routines that the hash tells apart may be listed in any order. -/
theorem generate_listed (hgoals : (goals childId).Perm (src.goals childId))
    (hroutines : routines.Perm src.routines)
    (htold : ∀ child, src.child childId = some child →
      StableId.Distinguishes [.goalAtRisk, .goalStalled] child.id
          ((src.goals childId).map (·.id)) ∧
        StableId.Distinguishes [.routineForming, .routineSlipping] child.id
          (src.routines.map (·.id)))
    (store : Store) (now : Instant) :
    generate (src.listed goals routines) store childId now = generate src store childId now := by
  rw [generate_eq, generate_eq]
  cases hchild : src.child childId with
  | none =>
    have hchild' : (src.listed goals routines).child childId = none := hchild
    unfold run
    rw [hchild, hchild']
  | some child =>
    have hchild' : (src.listed goals routines).child childId = some child := hchild
    obtain ⟨htoldGoals, htoldRoutines⟩ := htold child hchild
    rw [run_of_child hchild, run_of_child hchild']
    apply Outcome.map_bind_congr_of_ok (survey_listed hgoals hroutines store now)
    rintro ⟨r', cached'⟩ ⟨r, cached⟩ hsurvey' hsurvey heq
    obtain ⟨hsignals, hcached⟩ := Prod.mk.inj (Prod.mk.inj heq).2
    cases hcached
    apply finish_perm (Multiset.coe_eq_coe.mp hsignals) (detects_of_all (survey_ok hsurvey').1)
    intro built hbuilt
    exact untied_of_built htoldGoals htoldRoutines (survey_ok hsurvey).1 hbuilt

end Listed

/-- Of cards that differ in what their ids are made from, the rank and the rails give
the same in every order just when no two tie: same priority, window, number of cited
events and template, and one hash for two keys. And a child is shown the same cards
however its goals and the routines are listed, as long as the hash tells them apart. -/
theorem order_does_not_matter_without_ties (cards : List Card)
    (hids : ∀ c ∈ cards, c.HasStableId) (hdistinct : (cards.map Card.identity).Nodup) :
    ((∀ cards' : List Card, cards'.Perm cards → Ranking.sort cards' = Ranking.sort cards) ↔
        Untied cards) ∧
      (Untied cards → ∀ cards' : List Card, cards'.Perm cards →
        Ranking.safetyRails cards' = Ranking.safetyRails cards) ∧
      ∀ (src : Source) (goals : String → List Goal) (routines : List Behavior) (store : Store)
        (childId : String) (now : Instant), (goals childId).Perm (src.goals childId) →
          routines.Perm src.routines →
          (∀ child, src.child childId = some child →
            StableId.Distinguishes [.goalAtRisk, .goalStalled] child.id
                ((src.goals childId).map (·.id)) ∧
              StableId.Distinguishes [.routineForming, .routineSlipping] child.id
                (src.routines.map (·.id))) →
          generate (src.listed goals routines) store childId now =
            generate src store childId now := by
  refine ⟨Ranking.sort_perm_iff hids hdistinct, ?_, ?_⟩
  · intro huntied cards' hperm
    exact Ranking.safetyRails_perm hids huntied hperm
  · intro src goals routines store childId now hgoals hroutines htold
    exact generate_listed hgoals hroutines htold store now

/-- The child without moments in the week, with two goals. -/
def twoGoals : Source :=
  Roster.source {
    children := [oldChild]
    events := oldMoments
    goals := [nearGoal, { nearGoal with id := "g2", name := "Kite" }]
    behaviors := [] }

theorem order_does_not_matter_without_ties_twoGoals :
    Ranking.sort [riskCard "g2", riskCard "g1"] = Ranking.sort [riskCard "g1", riskCard "g2"] ∧
      generate (twoGoals.listed (fun id => (twoGoals.goals id).reverse) []) {} "c1" twentiethDay =
        generate twoGoals {} "c1" twentiethDay := by
  have hids : ∀ c ∈ [riskCard "g1", riskCard "g2"], c.HasStableId := by
    intro c hc
    rcases List.mem_pair.mp hc with rfl | rfl <;> rfl
  obtain ⟨hsort, -, hgenerate⟩ :=
    order_does_not_matter_without_ties [riskCard "g1", riskCard "g2"] hids (by decide)
  have hhash : StableId.hash (riskCard "g1").stableKey ≠
      StableId.hash (riskCard "g2").stableKey := by
    decide +kernel
  constructor
  · apply hsort.mpr _ _ (List.Perm.swap _ _ _)
    intro a ha b hb hties
    rcases List.mem_pair.mp ha with rfl | rfl <;> rcases List.mem_pair.mp hb with rfl | rfl
    · rfl
    · exact absurd hties.hash hhash
    · exact absurd hties.hash.symm hhash
    · rfl
  · apply hgenerate twoGoals _ _ {} "c1" twentiethDay (List.reverse_perm _) (.refl _)
    intro child hchild
    cases hchild
    exact ⟨⟨by decide +kernel, by decide +kernel, by decide +kernel⟩,
      ⟨by decide +kernel, by decide +kernel, by decide +kernel⟩⟩

end Engine

end MomentInsights
