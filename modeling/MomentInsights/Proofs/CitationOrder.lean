-- The order in which a signal cites its events. After the detectors no stage looks
-- at it: with the cited ids put in order first, each stage gives what it gives
-- anyway, with the cited ids put in order.
import MomentInsights.Proofs.CitedEvidence

namespace MomentInsights

/-! ## Cited ids in order -/

/-- The ids in the order of text. -/
def orderedIds (ids : List String) : List String := ids.mergeSort fun a b => (compare a b).isLE

theorem orderedIds_perm (ids : List String) : (orderedIds ids).Perm ids := List.mergeSort_perm _ _

/-- Only their order is lost. -/
theorem orderedIds_eq_iff {ids ids' : List String} :
    orderedIds ids = orderedIds ids' ↔ ids.Perm ids' := by
  constructor
  · intro h
    have hperm := orderedIds_perm ids
    rw [h] at hperm
    exact hperm.symm.trans (orderedIds_perm ids')
  · intro h
    apply Order.sort_eq_of_perm h
    intro a _ b _ hab
    exact Std.LawfulEqOrd.eq_of_compare hab

@[simp] theorem length_orderedIds (ids : List String) :
    (orderedIds ids).length = ids.length := List.length_mergeSort ids

def Signal.ordered (s : Signal) : Signal :=
  { s with evidence := { s.evidence with eventIds := orderedIds s.evidence.eventIds } }

def Card.ordered (c : Card) : Card := { c with eventIds := orderedIds c.eventIds }

def Dropped.ordered (d : Dropped) : Dropped := { d with card := d.card.ordered }

/-- The report with the cited ids in order, of each signal and each card. -/
def Report.ordered (r : Report) : Report :=
  { r with
    signals := r.signals.map Signal.ordered
    built := r.built.map Card.ordered
    dropped := r.dropped.map Dropped.ordered
    selected := r.selected.map Card.ordered }

/-! ## Building -/

theorem Report.triggered_ordered (r : Report) :
    r.ordered.triggered = r.triggered.map Signal.ordered := List.filter_map

theorem Card.ofSignal_ordered (s : Signal) (child : Child) (now : Instant) :
    Card.ofSignal s.ordered child now = (Card.ofSignal s child now).map Card.ordered := by
  have hkind : s.ordered.kind = s.kind := rfl
  have hvariables : Variables.ofSignal s.ordered child = Variables.ofSignal s child := rfl
  have hpriority (t : Template) : priorityFor t s.ordered = priorityFor t s := rfl
  unfold Card.ofSignal Card.build
  rw [hkind, hvariables, hpriority, Timestamp.utc_ofInstant]
  cases (Variables.ofSignal s child).args with
  | error f => rfl
  | ok args =>
    simp only [Outcome.ok_bind, Outcome.pure_eq_ok, Except.map, Card.ordered, Signal.ordered]

/-! ## Checking -/

namespace Evidence

variable {known known' : List String}

theorem flaw?_ordered {c : Card} (h : ∀ id ∈ c.eventIds, id ∈ known) :
    flaw? known c.ordered = flaw? known c := by
  have h' : ∀ id ∈ c.ordered.eventIds, id ∈ known := by
    intro id hid
    exact h id ((orderedIds_perm c.eventIds).mem_iff.mp hid)
  have hlength : c.ordered.eventIds.length = c.eventIds.length := length_orderedIds c.eventIds
  rw [flaw?_of_known h, flaw?_of_known h', hlength]
  rfl

theorem valid_ordered {cards : List Card} (h : ∀ c ∈ cards, ∀ id ∈ c.eventIds, id ∈ known) :
    valid known (cards.map Card.ordered) = (valid known cards).map Card.ordered := by
  unfold valid
  rw [List.filter_map]
  congr 1
  apply List.filter_congr
  intro c hc
  dsimp only [Function.comp_apply]
  rw [flaw?_ordered (h c hc)]

theorem invalid_ordered {cards : List Card} (h : ∀ c ∈ cards, ∀ id ∈ c.eventIds, id ∈ known) :
    invalid known (cards.map Card.ordered) =
      (invalid known cards).map fun x => (x.1.ordered, x.2) := by
  unfold invalid
  rw [List.filterMap_map, List.map_filterMap]
  apply List.filterMap_congr
  intro c hc
  dsimp only [Function.comp_apply]
  rw [flaw?_ordered (h c hc), Option.map_map]
  rfl

end Evidence

/-! ## Ranking -/

namespace Ranking

theorem rank_ordered (a b : Card) : rank a.ordered b.ordered = rank a b := by
  have hlength (c : Card) : c.ordered.eventIds.length = c.eventIds.length :=
    length_orderedIds c.eventIds
  unfold rank
  rw [hlength, hlength]
  rfl

theorem sort_ordered (cards : List Card) :
    sort (cards.map Card.ordered) = (sort cards).map Card.ordered := by
  unfold sort
  rw [eq_comm]
  apply List.map_mergeSort
  intro a _ b _
  unfold rankLE
  rw [rank_ordered]

theorem walkRails_ordered (risk improvement : Nat) (cards : List Card) :
    walkRails risk improvement (cards.map Card.ordered) =
      ((walkRails risk improvement cards).1.map Card.ordered,
        (walkRails risk improvement cards).2.map Dropped.ordered) := by
  induction cards generalizing risk improvement with
  | nil => rfl
  | cons c cs ih =>
    have htemplate : c.ordered.templateId = c.templateId := rfl
    rw [List.map_cons]
    unfold walkRails
    rw [htemplate]
    cases Rail.ofTemplate c.templateId with
    | risk => cases risk <;> simp only [ih] <;> rfl
    | improvement => cases improvement <;> simp only [ih] <;> rfl
    | neutral => simp only [ih]; rfl

theorem safetyRails_ordered (cards : List Card) :
    safetyRails (cards.map Card.ordered) =
      ((safetyRails cards).1.map Card.ordered, (safetyRails cards).2.map Dropped.ordered) := by
  unfold safetyRails
  rw [sort_ordered, walkRails_ordered]

theorem withoutCooldown_ordered (now : Timestamp) (cards : List Card) (store : Cooldown.Store) :
    withoutCooldown now (cards.map Card.ordered) store =
      (withoutCooldown now cards store).map fun x =>
        (x.1.map Card.ordered, x.2.1.map Dropped.ordered, x.2.2) := by
  induction cards generalizing store with
  | nil => rfl
  | cons c cs ih =>
    have htemplate : c.ordered.templateId = c.templateId := rfl
    have hchild : c.ordered.childId = c.childId := rfl
    rw [List.map_cons]
    unfold withoutCooldown
    rw [htemplate, hchild]
    obtain ⟨rests, store⟩ := store.isOnCooldown c.templateId c.childId now
    cases rests with
    | error f => rfl
    | ok rests =>
      cases rests with
      | false =>
        dsimp only
        rw [ih]
        cases withoutCooldown now cs store <;> rfl
      | true =>
        dsimp only
        cases store.cooldownEnd c.templateId c.childId with
        | error f => rfl
        | ok found =>
          rw [Outcome.ok_bind, Outcome.ok_bind, ih]
          cases withoutCooldown now cs found.2 <;> rfl

theorem truncate_ordered (cards : List Card) (limit : Int) :
    truncate (cards.map Card.ordered) limit =
      ((truncate cards limit).1.map Card.ordered, (truncate cards limit).2.map Dropped.ordered) := by
  unfold truncate
  dsimp only
  rw [sort_ordered, List.length_map, List.map_take, ← List.map_drop, List.map_map, List.map_map]
  rfl

end Ranking

/-! ## The stages together -/

namespace Engine

open Cooldown (Store)

/-- An outcome with the cited ids of its report in order. -/
def ordered (x : Report × Store) : Report × Store := (x.1.ordered, x.2)

/-- If all that is cited is known, the selection is the same but for the order of
the cited ids. -/
theorem select_ordered {child : Child} {t : Timeline} {r : Report}
    (h : ∀ s ∈ r.triggered, ∀ id ∈ s.evidence.eventIds, id ∈ t.eventIds) (store : Store) :
    select child t store r.ordered = (select child t store r).map ordered := by
  have hbuild : r.ordered.triggered.mapM (Card.ofSignal · child t.now) =
      (r.triggered.mapM (Card.ofSignal · child t.now)).map (List.map Card.ordered) := by
    rw [Report.triggered_ordered]
    exact Outcome.mapM_map (fun s => Card.ofSignal_ordered s child t.now) _
  unfold select
  dsimp only
  rw [hbuild]
  cases hbuilt : r.triggered.mapM (Card.ofSignal · child t.now) with
  | error f => rfl
  | ok built =>
    have hknown := known_of_built h hbuilt
    simp only [Except.map, Outcome.ok_bind]
    rw [Evidence.valid_ordered hknown, Evidence.invalid_ordered hknown,
      Ranking.safetyRails_ordered]
    dsimp only
    rw [Ranking.withoutCooldown_ordered]
    cases Ranking.withoutCooldown (Timestamp.ofInstant t.now)
        (Ranking.safetyRails (Evidence.valid t.eventIds built)).1 store with
    | error f => rfl
    | ok found =>
      obtain ⟨available, cooldownDrops, store'⟩ := found
      simp only [Except.map, Outcome.ok_bind]
      rw [Ranking.truncate_ordered, Report.triggered_ordered]
      simp only [Outcome.pure_eq_ok, List.length_map, List.map_append, List.map_map, ordered,
        Report.ordered]
      rfl

theorem sparse_ordered (child : Child) (t : Timeline) (r : Report) :
    sparse child t r.ordered = (sparse child t r).ordered := by
  have hnone (n : Int) (now : Instant) : (Card.insufficientData child n now).ordered =
      Card.insufficientData child n now := by
    unfold Card.ordered Card.insufficientData orderedIds
    rw [List.mergeSort_nil]
  unfold sparse Report.ordered
  simp only [List.map_cons, List.map_nil, hnone]

theorem finish_ordered {child : Child} {t : Timeline} {found : Report × Store}
    (h : ∀ s ∈ found.1.triggered, ∀ id ∈ s.evidence.eventIds, id ∈ t.eventIds) :
    finish child t (ordered found) = (finish child t found).map ordered := by
  by_cases hfew : t.fortnight.length < minEvents
  · rw [finish_few hfew, finish_few hfew]
    exact congrArg Except.ok (Prod.ext (sparse_ordered child t found.1) rfl)
  · have henough := Nat.not_lt.mp hfew
    rw [finish_enough henough, finish_enough henough]
    exact select_ordered h found.2

/-- The cited ids may be put in order before the survey is finished. -/
theorem run_ordered {src : Source} {childId : String} {child : Child}
    (hchild : src.child childId = some child) (store : Store) (now : Instant) :
    (run src store childId now).map ordered =
      ((survey src store childId child now).map ordered >>=
        finish child (Timeline.ofEvents (src.events childId) now)) := by
  rw [run_of_child hchild]
  cases hsurvey : survey src store childId child now with
  | error f => rfl
  | ok found =>
    have hdetected := detects_of_all (survey_ok hsurvey).1
    exact (finish_ordered (known_of_detected hdetected)).symm

end Engine

end MomentInsights
