-- What an evaluation selects, card for card: of the cards with accepted evidence
-- those that are first enough on their rail, less those whose template rests, in
-- rank order. The rails are filled before the resting cards are taken out.
import MomentInsights.Proofs.Evaluation

namespace MomentInsights.Engine

open Cooldown (Store)
open Ranking (Rail)

/-- The store says that the template of the card does not rest. -/
def isFree (store : Store) (now : Instant) (c : Card) : Bool :=
  match (store.isOnCooldown c.templateId c.childId (Timestamp.ofInstant now)).1 with
  | .ok rests => !rests
  | .error _ => false

/-- What the evaluation selects is what the rails keep, in rank order, and free. -/
def chosen (store : Store) (now : Instant) (valid : List Card) : List Card :=
  Ranking.sort ((valid.zipIdx.filter fun x =>
    Ranking.inRoom Ranking.maxRisk Ranking.maxImprovement valid.zipIdx x && isFree store now x.1).map
      Prod.fst)

theorem isFree_of_records {store store' : Store} {rs : List Cooldown.Record}
    (h : store.records = .ok (rs, store')) (now : Instant) (c : Card) :
    isFree store now c = !Store.resting store.periods rs now c.shownPair := by
  have hcooldown : store.isOnCooldown c.templateId c.childId (Timestamp.ofInstant now) =
      (.ok (Store.resting store.periods rs now c.shownPair), store') :=
    Store.isOnCooldown_of_records h c.shownPair now
  unfold isFree
  rw [hcooldown]

/-- The free cards that the rails keep are in rank order as they stand. -/
theorem safetyRails_filter (valid : List Card) (keep : Card → Bool) :
    (Ranking.safetyRails valid).1.filter keep =
      Ranking.sort ((valid.zipIdx.filter fun x =>
        Ranking.inRoom Ranking.maxRisk Ranking.maxImprovement valid.zipIdx x && keep x.1).map
          Prod.fst) := by
  have hand : (fun x => (keep ∘ Prod.fst) x &&
        Ranking.inRoom Ranking.maxRisk Ranking.maxImprovement valid.zipIdx x) =
      fun x => Ranking.inRoom Ranking.maxRisk Ranking.maxImprovement valid.zipIdx x && keep x.1 := by
    funext x
    exact Bool.and_comm _ _
  rw [Ranking.safetyRails_kept, List.filter_map, List.filter_filter, hand]
  exact Order.placed_filter_fst valid _

/-- What is selected is chosen from the cards with accepted evidence. -/
theorem Evaluates.selected_chosen {child : Child} {t : Timeline} {store store' : Store}
    {rs : List Cooldown.Record} {r : Report} (h : Evaluates child t store.periods rs r)
    (hrecords : store.records = .ok (rs, store')) :
    r.selected = chosen store t.now (Evidence.valid t.eventIds r.built) := by
  have hfree : isFree store t.now = fun c => !Store.resting store.periods rs t.now c.shownPair :=
    funext (isFree_of_records hrecords t.now)
  unfold chosen
  rw [hfree]
  exact h.selected.trans (safetyRails_filter _ _)

/-- No card is dropped by the cut. -/
theorem Evaluates.no_cutoff {child : Child} {t : Timeline} {p : Cooldown.Periods}
    {rs : List Cooldown.Record} {r : Report} (h : Evaluates child t p rs r) :
    ∀ d ∈ r.dropped, d.reason ≠ .rankingCutoff := by
  intro d hd hreason
  rcases h.dropped_reason hd with ⟨hr, -⟩ | (hr | hr) | hr <;>
    rw [hr] at hreason <;> cases hreason

/-- The rails bound what is selected. -/
theorem Evaluates.selected_few {child : Child} {t : Timeline} {p : Cooldown.Periods}
    {rs : List Cooldown.Record} {r : Report} (h : Evaluates child t p rs r) :
    r.selected.length ≤ 3 ∧
      r.selected.countP (Rail.ofTemplate ·.templateId = .risk) ≤ 1 ∧
      r.selected.countP (Rail.ofTemplate ·.templateId = .improvement) ≤ 2 := by
  have hrails : ∀ c ∈ Evidence.valid t.eventIds r.built,
      Rail.ofTemplate c.templateId ≠ .neutral := by
    intro c hc
    apply rail_of_built (detects_of_triggered h.detected) h.built
    exact List.mem_of_mem_filter hc
  have hsub : r.selected.Sublist (Ranking.safetyRails (Evidence.valid t.eventIds r.built)).1 := by
    rw [h.selected]
    exact List.filter_sublist
  obtain ⟨hrisk, himprovement⟩ := Ranking.walkRails_count Ranking.maxRisk Ranking.maxImprovement
    (Ranking.sort (Evidence.valid t.eventIds r.built))
  exact ⟨Nat.le_trans hsub.length_le (Ranking.safetyRails_length hrails),
    Nat.le_trans hsub.countP_le hrisk, Nat.le_trans hsub.countP_le himprovement⟩

/-- A known child with enough moments is shown just the chosen cards. Nothing is
left to the cut, and the evaluation fails only where the signals, the stored records
or the sizes of the data do. -/
theorem selected_exactly {src : Source} {store : Store} {childId : String} {now : Instant}
    {child : Child} (hchild : src.child childId = some child)
    (hevents : minEvents ≤ (Timeline.ofEvents (src.events childId) now).fortnight.length) :
    let t := Timeline.ofEvents (src.events childId) now
    (∀ r store', run src store childId now = .ok (r, store') →
      Detect.all (src.goals childId) src.routines t = .ok r.signals ∧
      r.triggered.mapM (Card.ofSignal · child now) = .ok r.built ∧
      r.selected = chosen store now (Evidence.valid t.eventIds r.built) ∧
      (r.selected.length ≤ 3 ∧
        r.selected.countP (Rail.ofTemplate ·.templateId = .risk) ≤ 1 ∧
        r.selected.countP (Rail.ofTemplate ·.templateId = .improvement) ≤ 2) ∧
      ∀ d ∈ r.dropped, d.reason ≠ .rankingCutoff) ∧
    (∀ f, run src store childId now = .error f →
      Detect.all (src.goals childId) src.routines t = .error f ∨ store.records = .error f ∨
        statsOf t (src.goals childId) src.routines = .error f) := by
  intro t
  obtain ⟨hok, herror⟩ := @run_known src store childId now child hchild hevents
  refine ⟨?_, herror⟩
  intro r store' hrun
  obtain ⟨rs, hrecords, hsignals, hr⟩ := hok r store' hrun
  refine ⟨hsignals, hr.built, ?_, hr.selected_few, hr.no_cutoff⟩
  have hfree : isFree store now = fun c => !Store.resting store.periods rs now c.shownPair :=
    funext (isFree_of_records hrecords now)
  unfold chosen
  rw [hfree]
  exact hr.selected.trans (safetyRails_filter _ _)

/-- The evaluation of the child without moments in the week comes to an end. -/
theorem selected_exactly_oldSource :
    ∃ r store', run oldSource {} "c1" twentiethDay = .ok (r, store') ∧
      r.selected = chosen {} twentiethDay (Evidence.valid ["e1", "e2", "e3"] r.built) ∧
      r.selected.length ≤ 3 := by
  have hchild : oldSource.child "c1" = some oldChild := rfl
  obtain ⟨hok, herror⟩ :=
    @selected_exactly oldSource {} "c1" twentiethDay oldChild hchild oldSource_enough
  cases hrun : run oldSource {} "c1" twentiethDay with
  | error f =>
    exfalso
    rcases herror f hrun with h | h | h
    · exact absurd h (oldSource_signals f)
    · cases h
    · exact absurd h (oldSource_stats f)
  | ok found =>
    obtain ⟨r, store'⟩ := found
    obtain ⟨-, -, hselected, hfew, -⟩ := hok r store' hrun
    exact ⟨r, store', rfl, hselected, hfew.1⟩

end MomentInsights.Engine
