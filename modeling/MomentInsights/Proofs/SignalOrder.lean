-- The order in which signals and cards come. The signals of one kind come in the order in
-- which their goals or routines are given, one for each, and the cards of the hits among them
-- come in the same order.
import MomentInsights.Proofs.ListingOrder

namespace MomentInsights

/-! ## The signals of one kind -/

namespace Detect

variable {goals : List Goal} {routines : List Behavior} {t : Timeline} {signals : List Signal}

/-- What the detector of the kind finds for the goals, the routines or the week, in their
order. -/
def ofKind (goals : List Goal) (routines : List Behavior) (t : Timeline) :
    SignalKind → Except Failure (List Signal)
  | .goalAtRisk => (Goal.activeOnly goals).mapM (goalAtRisk · t)
  | .goalStalled => (Goal.activeOnly goals).mapM (goalStalled · t)
  | .routineForming => routines.mapM fun b => .ok (routineForming b t)
  | .routineSlipping => routines.mapM (routineSlipping · t)
  | .highChallengeWeek => [t].mapM highChallengeWeek

section Pairs

variable {α : Type} {f : α → Except Failure (List Signal)} {kind : SignalKind} {xs : List α}
  {found : List (List Signal)}

/-- One signal of the kind for each element. -/
theorem filter_kind_each {g : α → Except Failure Signal} (h : xs.mapM f = .ok found)
    (heach : ∀ x ss, f x = .ok ss → ∃ s, g x = .ok s ∧ ss.filter (·.kind == kind) = [s]) :
    xs.mapM g = .ok (found.flatten.filter (·.kind == kind)) := by
  rw [Outcome.mapM_eq_ok] at h ⊢
  induction h with
  | nil => exact .nil
  | @cons x ss xs found hx _ ih =>
    obtain ⟨s, hs, hfilter⟩ := heach x ss hx
    rw [List.flatten_cons, List.filter_append, hfilter]
    exact .cons hs ih

/-- No signal of the kind. -/
theorem filter_kind_none (h : xs.mapM f = .ok found)
    (heach : ∀ x ss, f x = .ok ss → ∀ s ∈ ss, s.kind ≠ kind) :
    found.flatten.filter (·.kind == kind) = [] := by
  rw [List.filter_eq_nil_iff]
  intro s hs
  obtain ⟨ss, hss, hs⟩ := List.mem_flatten.mp hs
  obtain ⟨x, -, hx⟩ := Outcome.exists_of_mem_mapM h hss
  simpa using heach x ss hx s hs

end Pairs

/-! ### The two signals of each goal -/

section Goals

variable {active : List Goal} {found : List (List Signal)}
  (hfound : active.mapM (ofGoal t) = .ok found)
include hfound

theorem ofGoals_atRisk :
    active.mapM (goalAtRisk · t) = .ok (found.flatten.filter (·.kind == .goalAtRisk)) := by
  apply filter_kind_each hfound
  intro g ss hss
  obtain ⟨risk, stalled, hrisk, -, rfl, hkind, hkind'⟩ := ofGoal_ok hss
  exact ⟨risk, hrisk, by simp [hkind, hkind']⟩

theorem ofGoals_stalled :
    active.mapM (goalStalled · t) = .ok (found.flatten.filter (·.kind == .goalStalled)) := by
  apply filter_kind_each hfound
  intro g ss hss
  obtain ⟨risk, stalled, -, hstalled, rfl, hkind, hkind'⟩ := ofGoal_ok hss
  exact ⟨stalled, hstalled, by simp [hkind, hkind']⟩

theorem ofGoals_none (kind : SignalKind) (hrisk : kind ≠ .goalAtRisk)
    (hstalled : kind ≠ .goalStalled) : found.flatten.filter (·.kind == kind) = [] := by
  apply filter_kind_none hfound
  rintro g ss hss s hs rfl
  exact (kind_of_ofGoal hss s hs).elim hrisk hstalled

end Goals

/-! ### The two signals of each routine -/

section Routines

variable {found : List (List Signal)} (hfound : routines.mapM (ofRoutine t) = .ok found)
include hfound

theorem ofRoutines_forming :
    (routines.mapM fun b => (.ok (routineForming b t) : Except Failure Signal)) =
      .ok (found.flatten.filter (·.kind == .routineForming)) := by
  apply filter_kind_each hfound
  intro b ss hss
  obtain ⟨slipping, -, rfl, hkind, hkind'⟩ := ofRoutine_ok hss
  exact ⟨routineForming b t, rfl, by simp [hkind, hkind']⟩

theorem ofRoutines_slipping :
    routines.mapM (routineSlipping · t) =
      .ok (found.flatten.filter (·.kind == .routineSlipping)) := by
  apply filter_kind_each hfound
  intro b ss hss
  obtain ⟨slipping, hslipping, rfl, hkind, hkind'⟩ := ofRoutine_ok hss
  exact ⟨slipping, hslipping, by simp [hkind, hkind']⟩

theorem ofRoutines_none (kind : SignalKind) (hforming : kind ≠ .routineForming)
    (hslipping : kind ≠ .routineSlipping) : found.flatten.filter (·.kind == kind) = [] := by
  apply filter_kind_none hfound
  rintro b ss hss s hs rfl
  exact (kind_of_ofRoutine hss s hs).elim hforming hslipping

end Routines

/-! ### All of them -/

/-- Of all signals, those of a kind are what its detector finds. -/
theorem all_ofKind (h : all goals routines t = .ok signals) (kind : SignalKind) :
    ofKind goals routines t kind = .ok (signals.filter (·.kind == kind)) := by
  obtain ⟨ofGoals, hgoals, h⟩ := Outcome.bind_eq_ok.mp h
  obtain ⟨ofRoutines, hroutines, h⟩ := Outcome.bind_eq_ok.mp h
  obtain ⟨week, hweek, h⟩ := Outcome.bind_eq_ok.mp h
  cases h
  have hweekKind := (highChallengeWeek_detected hweek).kind_eq
  have hnoWeek (hkind : kind ≠ .highChallengeWeek) : [week].filter (·.kind == kind) = [] := by
    simpa [hweekKind] using hkind.symm
  rw [List.filter_append, List.filter_append]
  cases kind with
  | goalAtRisk =>
    rw [ofRoutines_none hroutines .goalAtRisk nofun nofun, hnoWeek nofun,
      List.append_nil, List.append_nil]
    exact ofGoals_atRisk hgoals
  | goalStalled =>
    rw [ofRoutines_none hroutines .goalStalled nofun nofun, hnoWeek nofun,
      List.append_nil, List.append_nil]
    exact ofGoals_stalled hgoals
  | routineForming =>
    rw [ofGoals_none hgoals .routineForming nofun nofun, hnoWeek nofun,
      List.append_nil, List.nil_append]
    exact ofRoutines_forming hroutines
  | routineSlipping =>
    rw [ofGoals_none hgoals .routineSlipping nofun nofun, hnoWeek nofun,
      List.append_nil, List.nil_append]
    exact ofRoutines_slipping hroutines
  | highChallengeWeek =>
    have hself : [week].filter (·.kind == .highChallengeWeek) = [week] := by simp [hweekKind]
    rw [ofGoals_none hgoals .highChallengeWeek nofun nofun,
      ofRoutines_none hroutines .highChallengeWeek nofun nofun, hself]
    unfold ofKind
    rw [List.mapM_cons, hweek]
    rfl

end Detect

/-! ## Their cards -/

/-- The cards of the kind. -/
def SignalKind.cardsOf (kind : SignalKind) (cards : List Card) : List Card :=
  cards.filter (·.templateId == kind.name)

theorem SignalKind.name_beq (k k' : SignalKind) : (k.name == k'.name) = (k == k') := by
  rw [Bool.eq_iff_iff, beq_iff_eq, beq_iff_eq]
  exact ⟨name_injective, congrArg name⟩

/-- The cards of a kind are those of its hits. -/
theorem Card.mapM_cardsOf {signals : List Signal} {child : Child} {now : Instant}
    {built : List Card}
    (h : (signals.filter (·.triggered)).mapM (Card.ofSignal · child now) = .ok built)
    (kind : SignalKind) :
    ((signals.filter (·.kind == kind)).filter (·.triggered)).mapM (Card.ofSignal · child now) =
      .ok (kind.cardsOf built) := by
  have hcomm : (signals.filter (·.kind == kind)).filter (·.triggered) =
      (signals.filter (·.triggered)).filter (·.kind == kind) := by
    rw [List.filter_filter, List.filter_filter]
    exact List.filter_congr fun s _ => Bool.and_comm _ _
  rw [hcomm]
  rw [Outcome.mapM_eq_ok] at h ⊢
  apply List.rel_filter _ h
  intro s c hcard
  change (s.kind == kind) = true ↔ (c.templateId == kind.name) = true
  rw [(Card.from_ofSignal hcard).templateId, SignalKind.name_beq]

/-- Results of results that a filter kept come in the order of the elements. -/
theorem Outcome.sublistForall₂_of_mapM {ε α β γ : Type} {f : α → Except ε β} {g : β → Except ε γ}
    {keep : β → Bool} {xs : List α} {ys : List β} {zs : List γ} (hf : xs.mapM f = .ok ys)
    (hg : (ys.filter keep).mapM g = .ok zs) :
    List.SublistForall₂ (fun z x => ∃ y, f x = .ok y ∧ keep y = true ∧ g y = .ok z) zs xs := by
  rw [mapM_eq_ok] at hf hg
  induction hf generalizing zs with
  | nil =>
    cases hg
    exact .nil
  | @cons x y xs ys hxy _ ih =>
    rw [List.filter_cons] at hg
    split at hg
    · rename_i hkeep
      cases hg with
      | cons hyz hrest => exact .cons ⟨y, hxy, hkeep, hyz⟩ (ih hrest)
    · exact .cons_right (ih hg)

end MomentInsights
