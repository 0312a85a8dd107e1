-- A report accounts for every card. Each stage splits the cards that reach it
-- into those that it lets on and those that it drops, so that what was built is
-- what is selected together with what was dropped, and the counts of the stages
-- tell how many went where.
import MomentInsights.Proofs.Evaluation

namespace MomentInsights

/-- The stage that drops cards for this reason. -/
def DropReason.stage : DropReason → Stage
  | .evidenceInvalid => .validating
  | .riskRail => .safetyFiltering
  | .improvementRail => .safetyFiltering
  | .cooldownActive => .cooldownFiltering
  | .rankingCutoff => .ranking

/-- What is dropped at a stage. -/
def Report.droppedAt (r : Report) (stage : Stage) : List Dropped :=
  r.dropped.filter (·.reason.stage == stage)

/-- How many signals are looked for: two for each active goal, two for each routine,
and one for the week. -/
def signalCount (goals : List Goal) (routines : List Behavior) : Nat :=
  2 * (Goal.activeOnly goals).length + 2 * routines.length + 1

/-- The report of a full evaluation accounts for the signals and the cards. -/
structure Report.Accounts (r : Report) (goals : List Goal) (routines : List Behavior) : Prop where
  /-- No card is lost and none is counted twice. -/
  cards : r.built.Perm (r.selected ++ r.dropped.map (·.card))
  signals : r.signals.length = signalCount goals routines
  stages : r.stages.map (·.stage) = [.detecting, .building, .validating, .safetyFiltering,
    .cooldownFiltering, .ranking, .done]
  starts : r.stages.head?.map (·.cardsIn) = some (signalCount goals routines)
  /-- What a stage lets out goes into the next one. -/
  chained : r.stages.IsChain fun a b => a.cardsOut = b.cardsIn
  /-- What goes into a stage after the first and does not come out is dropped there. -/
  balanced : ∀ s ∈ r.stages, s.stage ≠ .detecting →
    s.cardsIn = s.cardsOut + (r.droppedAt s.stage).length

/-! ## Splitting cards -/

/-- A stage splits the cards into those it keeps and those it drops. -/
structure Splits (stage : Stage) (cards kept : List Card) (dropped : List Dropped) : Prop where
  perm : cards.Perm (kept ++ dropped.map (·.card))
  atStage : ∀ d ∈ dropped, d.reason.stage = stage

namespace Splits

variable {stage : Stage} {cards cards' kept : List Card} {dropped : List Dropped}

theorem nil (stage : Stage) : Splits stage [] [] [] := ⟨.nil, by simp⟩

theorem keep (h : Splits stage cards kept dropped) (c : Card) :
    Splits stage (c :: cards) (c :: kept) dropped := ⟨h.perm.cons c, h.atStage⟩

theorem drop (h : Splits stage cards kept dropped) {d : Dropped} (hd : d.reason.stage = stage) :
    Splits stage (d.card :: cards) kept (d :: dropped) := by
  refine ⟨(h.perm.cons d.card).trans List.perm_middle.symm, ?_⟩
  intro d' hd'
  rcases List.mem_cons.mp hd' with rfl | hd'
  · exact hd
  · exact h.atStage d' hd'

theorem of_perm (h : Splits stage cards' kept dropped) (hperm : cards.Perm cards') :
    Splits stage cards kept dropped := ⟨hperm.trans h.perm, h.atStage⟩

theorem length_eq (h : Splits stage cards kept dropped) :
    cards.length = kept.length + dropped.length := by
  simpa using h.perm.length_eq

/-- All drops of the stage are at the stage, and none are at another. -/
theorem filter_stage (h : Splits stage cards kept dropped) (other : Stage) :
    dropped.filter (·.reason.stage == other) = if stage = other then dropped else [] := by
  split
  · rename_i heq
    rw [List.filter_eq_self]
    intro d hd
    simp [h.atStage d hd, heq]
  · rename_i hne
    rw [List.filter_eq_nil_iff]
    intro d hd
    simp [h.atStage d hd, hne]

end Splits

/-! ## The filters -/

theorem Evidence.splits (known : List String) (cards : List Card) :
    Splits .validating cards (valid known cards)
      ((invalid known cards).map fun x => ⟨x.1, .evidenceInvalid, x.2.message⟩) := by
  induction cards with
  | nil => exact .nil _
  | cons c cs ih =>
    unfold valid invalid at ih ⊢
    rw [List.filter_cons, List.filterMap_cons]
    cases flaw? known c with
    | none => exact ih.keep c
    | some f => exact ih.drop (d := ⟨c, .evidenceInvalid, f.message⟩) rfl

namespace Ranking

theorem walkRails_splits (risk improvement : Nat) (cards : List Card) :
    Splits .safetyFiltering cards (walkRails risk improvement cards).1
      (walkRails risk improvement cards).2 := by
  fun_induction walkRails risk improvement cards with
  | case1 => exact .nil _
  | case2 _ c _ _ kept dropped hrest ih =>
    rw [hrest] at ih
    exact ih.drop (d := riskDrop c) rfl
  | case3 _ c _ _ _ kept dropped hrest ih =>
    rw [hrest] at ih
    exact ih.keep c
  | case4 _ c _ _ kept dropped hrest ih =>
    rw [hrest] at ih
    exact ih.drop (d := improvementDrop c) rfl
  | case5 _ c _ _ _ kept dropped hrest ih =>
    rw [hrest] at ih
    exact ih.keep c
  | case6 _ _ c _ _ kept dropped hrest ih =>
    rw [hrest] at ih
    exact ih.keep c

theorem safetyRails_splits (cards : List Card) :
    Splits .safetyFiltering cards (safetyRails cards).1 (safetyRails cards).2 :=
  (walkRails_splits maxRisk maxImprovement (sort cards)).of_perm (List.mergeSort_perm _ _).symm

/-- The cooldown filter splits the cards, whatever the store holds. -/
theorem withoutCooldown_splits {now : Timestamp} {cards kept : List Card} {dropped : List Dropped}
    {store store' : Cooldown.Store}
    (h : withoutCooldown now cards store = .ok (kept, dropped, store')) :
    Splits .cooldownFiltering cards kept dropped := by
  induction cards generalizing store kept dropped with
  | nil =>
    cases h
    exact .nil _
  | cons c cs ih =>
    unfold withoutCooldown at h
    split at h
    · cases h
    · obtain ⟨⟨ends, read⟩, -, h⟩ := Outcome.bind_eq_ok.mp h
      obtain ⟨rest, hrest, h⟩ := Outcome.bind_eq_ok.mp h
      cases h
      exact (ih hrest).drop (d := cooldownDrop c ends) rfl
    · obtain ⟨rest, hrest, h⟩ := Outcome.bind_eq_ok.mp h
      cases h
      exact (ih hrest).keep c

theorem truncate_splits (cards : List Card) (limit : Int) :
    Splits .ranking cards (truncate cards limit).1 (truncate cards limit).2 := by
  constructor
  · have hdropped : (truncate cards limit).2.map (·.card) =
        (sort cards).drop (cutPoint limit (sort cards).length) := by
      unfold truncate
      rw [List.map_map]
      exact List.map_id _
    rw [hdropped]
    unfold truncate
    rw [List.take_append_drop]
    exact (List.mergeSort_perm _ _).symm
  · intro d hd
    obtain ⟨c, -, rfl⟩ := List.mem_map.mp hd
    rfl

end Ranking

/-! ## The signals -/

namespace Detect

/-- A list of pairs, one for each element. -/
theorem length_flatten_of_pairs {α β : Type} {f : α → Except Failure (List β)} {xs : List α}
    {yss : List (List β)} (h : xs.mapM f = .ok yss)
    (hpair : ∀ x ys, f x = .ok ys → ys.length = 2) : yss.flatten.length = 2 * xs.length := by
  rw [Outcome.mapM_eq_ok] at h
  induction h with
  | nil => rfl
  | cons hfirst _ ih =>
    rw [List.flatten_cons, List.length_append, hpair _ _ hfirst, ih, List.length_cons]
    omega

theorem length_ofGoal {t : Timeline} {g : Goal} {signals : List Signal}
    (h : ofGoal t g = .ok signals) : signals.length = 2 := by
  obtain ⟨risk, stalled, -, -, rfl, -, -⟩ := ofGoal_ok h
  rfl

theorem length_ofRoutine {t : Timeline} {b : Behavior} {signals : List Signal}
    (h : ofRoutine t b = .ok signals) : signals.length = 2 := by
  obtain ⟨slipping, -, rfl, -, -⟩ := ofRoutine_ok h
  rfl

theorem length_all {goals : List Goal} {routines : List Behavior} {t : Timeline}
    {signals : List Signal} (h : all goals routines t = .ok signals) :
    signals.length = signalCount goals routines := by
  obtain ⟨ofGoals, hgoals, h⟩ := Outcome.bind_eq_ok.mp h
  obtain ⟨ofRoutines, hroutines, h⟩ := Outcome.bind_eq_ok.mp h
  obtain ⟨week, -, h⟩ := Outcome.bind_eq_ok.mp h
  cases h
  have hofGoals := length_flatten_of_pairs hgoals fun _ _ => length_ofGoal
  have hofRoutines := length_flatten_of_pairs hroutines fun _ _ => length_ofRoutine
  simp only [List.length_append, List.length_singleton, hofGoals, hofRoutines, signalCount]

end Detect

/-! ## The report -/

namespace Engine

open Cooldown (Store)

/-- Every triggered signal gives one card. -/
theorem length_built {signals : List Signal} {child : Child} {now : Instant} {built : List Card}
    (h : signals.mapM (Card.ofSignal · child now) = .ok built) : signals.length = built.length :=
  (Outcome.mapM_eq_ok.mp h).length_eq

section FourSplits

variable {r : Report} {valid safe available : List Card}
  {invalid onRails resting cut : List Dropped}
  (hvalid : Splits .validating r.built valid invalid)
  (hsafe : Splits .safetyFiltering valid safe onRails)
  (havailable : Splits .cooldownFiltering safe available resting)
  (hselected : Splits .ranking available r.selected cut)
  (hdropped : r.dropped = invalid ++ onRails ++ resting ++ cut)
include hvalid hsafe havailable hselected hdropped

theorem built_perm_of_splits : r.built.Perm (r.selected ++ r.dropped.map (·.card)) := by
  have hcounts (c : Card) : r.built.count c = (r.selected ++ r.dropped.map (·.card)).count c := by
    have h₁ := hvalid.perm.count_eq c
    have h₂ := hsafe.perm.count_eq c
    have h₃ := havailable.perm.count_eq c
    have h₄ := hselected.perm.count_eq c
    simp only [hdropped, List.map_append, List.count_append] at h₁ h₂ h₃ h₄ ⊢
    omega
  exact List.perm_iff_count.mpr hcounts

theorem length_droppedAt_of_splits (stage : Stage) : (r.droppedAt stage).length =
    (if .validating = stage then invalid else []).length +
      (if .safetyFiltering = stage then onRails else []).length +
      (if .cooldownFiltering = stage then resting else []).length +
      (if .ranking = stage then cut else []).length := by
  unfold Report.droppedAt
  rw [hdropped, List.filter_append, List.filter_append, List.filter_append,
    hvalid.filter_stage, hsafe.filter_stage, havailable.filter_stage, hselected.filter_stage]
  simp only [List.length_append]

/-- Four splits in a row, each of what the one before kept, account for all cards. -/
theorem accounts_of_splits {goals : List Goal} {routines : List Behavior}
    (hsignals : r.signals.length = signalCount goals routines)
    (hbuilt : r.triggered.length = r.built.length)
    (hstages : r.stages = [
      ⟨.detecting, r.signals.length, r.triggered.length⟩,
      ⟨.building, r.triggered.length, r.built.length⟩,
      ⟨.validating, r.built.length, valid.length⟩,
      ⟨.safetyFiltering, valid.length, safe.length⟩,
      ⟨.cooldownFiltering, safe.length, available.length⟩,
      ⟨.ranking, available.length, r.selected.length⟩,
      ⟨.done, r.selected.length, r.selected.length⟩]) :
    r.Accounts goals routines := by
  constructor
  · exact built_perm_of_splits hvalid hsafe havailable hselected hdropped
  · exact hsignals
  · rw [hstages]
    rfl
  · rw [hstages]
    exact congrArg some hsignals
  · simp [hstages]
  · intro s hs hstage
    rw [length_droppedAt_of_splits hvalid hsafe havailable hselected hdropped]
    rw [hstages] at hs
    simp only [List.mem_cons, List.not_mem_nil, or_false] at hs
    rcases hs with rfl | rfl | rfl | rfl | rfl | rfl | rfl
    · exact absurd rfl hstage
    · simpa using hbuilt
    · simpa using hvalid.length_eq
    · simpa using hsafe.length_eq
    · simpa using havailable.length_eq
    · simpa using hselected.length_eq
    · simp

end FourSplits

theorem select_accounts {child : Child} {t : Timeline} {store store' : Store} {r r' : Report}
    {goals : List Goal} {routines : List Behavior}
    (hsignals : r.signals.length = signalCount goals routines)
    (h : select child t store r = .ok (r', store')) : r'.Accounts goals routines := by
  obtain ⟨built, hbuilt, h⟩ := Outcome.bind_eq_ok.mp h
  obtain ⟨⟨available, resting, filtered⟩, hcooldown, h⟩ := Outcome.bind_eq_ok.mp h
  cases h
  exact accounts_of_splits (Evidence.splits t.eventIds built) (Ranking.safetyRails_splits _)
    (Ranking.withoutCooldown_splits hcooldown) (Ranking.truncate_splits _ _) rfl hsignals
    (length_built hbuilt) rfl

/-- The report of a known child with enough moments accounts for every card, for any
data, any state of the store and any time. There is a report unless the signals, the
stored records or the sizes of the data fail. -/
theorem report_accounts_for_every_card {src : Source} {store : Store} {childId : String}
    {now : Instant} {child : Child} (hchild : src.child childId = some child)
    (hevents : minEvents ≤ (Timeline.ofEvents (src.events childId) now).fortnight.length) :
    let t := Timeline.ofEvents (src.events childId) now
    (∀ r store', run src store childId now = .ok (r, store') →
      r.Accounts (src.goals childId) src.routines) ∧
    (∀ f, run src store childId now = .error f →
      Detect.all (src.goals childId) src.routines t = .error f ∨ store.records = .error f ∨
        statsOf t (src.goals childId) src.routines = .error f) := by
  intro t
  refine ⟨?_, (run_known hchild hevents).2⟩
  intro r store' hrun
  rw [run_of_child hchild] at hrun
  obtain ⟨⟨report, read⟩, hsurvey, hfinish⟩ := Outcome.bind_eq_ok.mp hrun
  rw [finish_enough hevents] at hfinish
  exact select_accounts (Detect.length_all (survey_ok hsurvey).1) hfinish

/-- Of the two cards of the near goal, the one at risk cites too little, and the
stalled one is selected. -/
theorem report_accounts_oldSource :
    ∃ r store', run oldSource {} "c1" twentiethDay = .ok (r, store') ∧
      r.Accounts [nearGoal] [] ∧ r.stages.map (·.cardsOut) = [2, 2, 1, 1, 1, 1, 1] := by
  have hchild : oldSource.child "c1" = some oldChild := rfl
  have hok : ((run oldSource {} "c1" twentiethDay).map fun x => x.1.stages.map (·.cardsOut)) =
      .ok [2, 2, 1, 1, 1, 1, 1] := by
    decide +kernel
  cases hrun : run oldSource {} "c1" twentiethDay with
  | error f =>
    rw [hrun] at hok
    cases hok
  | ok found =>
    obtain ⟨r, store'⟩ := found
    rw [hrun] at hok
    refine ⟨r, store', rfl, ?_, Except.ok.inj hok⟩
    exact (report_accounts_for_every_card hchild oldSource_enough).1 r store' hrun

end Engine

end MomentInsights
