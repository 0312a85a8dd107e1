-- Cards of one rank. The last thing that the rank looks at is the id of a card, and
-- it carries a hash of 32 bits. So two cards may be of one rank, and then they stand
-- as they are given. Without such a tie the order in which the cards are given does
-- not matter.
import Mathlib.Data.List.Nodup
import Mathlib.Data.List.Pairwise
import MomentInsights.Proofs.Rails

namespace MomentInsights

/-! ## Stable sorting -/

namespace Order

variable {α : Type} {cmp : α → α → Ordering}

theorem not_sublist_swap {xs : List α} (h : xs.Nodup) {a b : α} (hab : [a, b].Sublist xs) :
    ¬ [b, a].Sublist xs := by
  induction xs with
  | nil => cases hab
  | cons x xs ih =>
    obtain ⟨hx, hxs⟩ := List.nodup_cons.mp h
    intro hba
    rcases List.sublist_cons_iff.mp hab with htail | ⟨r, hr, htail⟩ <;>
      rcases List.sublist_cons_iff.mp hba with htail' | ⟨r', hr', htail'⟩
    · exact ih hxs htail htail'
    · cases hr'
      exact hx (htail.subset (List.mem_cons_of_mem a List.mem_cons_self))
    · cases hr
      exact hx (htail'.subset (List.mem_cons_of_mem b List.mem_cons_self))
    · cases hr
      cases hr'
      exact hx (htail.subset List.mem_cons_self)

theorem eq_of_pairwise_ne [Std.OrientedCmp cmp] {xs : List α}
    (h : xs.Pairwise fun a b => cmp a b ≠ .eq) : ∀ a ∈ xs, ∀ b ∈ xs, cmp a b = .eq → a = b := by
  have : Std.Symm fun a b => cmp a b ≠ .eq := ⟨fun _ _ hab hba => hab (Std.OrientedCmp.eq_symm hba)⟩
  intro a ha b hb heq
  by_contra hne
  exact h.forall ha hb hne heq

/-- Sorting gives one list for all orders of distinct elements just when only equal
elements compare as equal. Two others that do would stay in their order, in the list
and in its reverse. -/
theorem sort_perm_iff [Std.TransCmp cmp] {xs : List α} (h : xs.Nodup) :
    (∀ ys : List α, ys.Perm xs →
        (ys.mergeSort fun a b => (cmp a b).isLE) = xs.mergeSort fun a b => (cmp a b).isLE) ↔
      ∀ a ∈ xs, ∀ b ∈ xs, cmp a b = .eq → a = b := by
  have hstable {a b : α} {ys : List α} (hab : cmp a b = .eq) (hsub : [a, b].Sublist ys) :
      [a, b].Sublist (ys.mergeSort fun a b => (cmp a b).isLE) := by
    apply List.pair_sublist_mergeSort _ isLE_total _ hsub
    · intro a b c
      exact Std.TransCmp.isLE_trans
    · rw [hab]
      rfl
  constructor
  · intro hsame
    apply eq_of_pairwise_ne
    rw [List.pairwise_iff_forall_sublist]
    intro a b hsub heq
    have hreverse := hstable (Std.OrientedCmp.eq_symm heq) hsub.reverse
    rw [hsame xs.reverse (List.reverse_perm xs)] at hreverse
    have hsorted := (List.mergeSort_perm xs fun a b => (cmp a b).isLE).nodup_iff.mpr h
    exact not_sublist_swap hsorted (hstable heq hsub) hreverse
  · intro hequal ys hperm
    exact (sort_eq_of_perm hperm.symm hequal).symm

end Order

/-! ## Ties -/

namespace StableId

/-- The key tells apart what the cards of one template are about. -/
theorem key_injective {templateId childId a b : String} {days : Int} (ha : a ≠ "") (hb : b ≠ "")
    (h : key templateId childId (some a) days = key templateId childId (some b) days) : a = b := by
  unfold key at h
  dsimp only at h
  rw [if_neg ha, if_neg hb] at h
  simp only [String.append_left_inj, String.append_right_inj] at h
  exact h

theorem cardId_inj (templateId childId childId' : String) (entity entity' : Option String)
    (days days' : Int) :
    cardId templateId childId entity days = cardId templateId childId' entity' days' ↔
      hash (key templateId childId entity days) = hash (key templateId childId' entity' days') := by
  unfold cardId
  exact String.append_right_inj _

end StableId

namespace Card

/-- The id of the card is made from its template, child, entity and window. -/
def HasStableId (c : Card) : Prop :=
  c.id = StableId.cardId c.templateId c.childId c.entityId c.windowDays

/-- What the id is made from. -/
def identity (c : Card) : String × String × Option String × Int :=
  (c.templateId, c.childId, c.entityId, c.windowDays)

/-- The cards are of one rank: they agree in all that counts, and their keys have
one hash. -/
structure Ties (a b : Card) : Prop where
  priority : a.priority = b.priority
  windowDays : a.windowDays = b.windowDays
  evidence : a.eventIds.length = b.eventIds.length
  templateId : a.templateId = b.templateId
  hash : StableId.hash a.stableKey = StableId.hash b.stableKey

end Card

/-- No two different cards tie. -/
def Untied (cards : List Card) : Prop := ∀ a ∈ cards, ∀ b ∈ cards, Card.Ties a b → a = b

namespace Ranking

theorem rank_eq_iff {a b : Card} (ha : a.HasStableId) (hb : b.HasStableId) :
    rank a b = .eq ↔ Card.Ties a b := by
  have hid (htemplate : a.templateId = b.templateId) :
      a.id = b.id ↔ StableId.hash a.stableKey = StableId.hash b.stableKey := by
    rw [ha, hb, htemplate, StableId.cardId_inj]
    unfold Card.stableKey
    rw [htemplate]
  unfold rank
  simp only [Ordering.then_eq_eq, Std.LawfulEqCmp.compare_eq_iff_eq]
  constructor
  · rintro ⟨hpriority, hwindow, hevidence, htemplate, heq⟩
    exact ⟨hpriority.symm, hwindow, hevidence.symm, htemplate, (hid htemplate).mp heq⟩
  · intro h
    exact ⟨h.priority.symm, h.windowDays, h.evidence.symm, h.templateId,
      (hid h.templateId).mpr h.hash⟩

theorem eq_iff_of_ties {cards : List Card} (hids : ∀ c ∈ cards, c.HasStableId) :
    (∀ a ∈ cards, ∀ b ∈ cards, rank a b = .eq → a = b) ↔ Untied cards := by
  constructor
  · intro h a ha b hb hties
    exact h a ha b hb ((rank_eq_iff (hids a ha) (hids b hb)).mpr hties)
  · intro h a ha b hb heq
    exact h a ha b hb ((rank_eq_iff (hids a ha) (hids b hb)).mp heq)

/-- Cards that differ in what their ids are made from are sorted alike from every
order just when no two of them tie. -/
theorem sort_perm_iff {cards : List Card} (hids : ∀ c ∈ cards, c.HasStableId)
    (hdistinct : (cards.map Card.identity).Nodup) :
    (∀ cards' : List Card, cards'.Perm cards → sort cards' = sort cards) ↔ Untied cards := by
  rw [← eq_iff_of_ties hids]
  exact Order.sort_perm_iff (List.Nodup.of_map _ hdistinct)

/-- Without ties the rails keep and drop the same cards, whatever the order. -/
theorem safetyRails_perm {cards cards' : List Card} (hids : ∀ c ∈ cards, c.HasStableId)
    (h : Untied cards) (hperm : cards'.Perm cards) : safetyRails cards' = safetyRails cards := by
  have hsorted : sort cards' = sort cards :=
    (Order.sort_eq_of_perm hperm.symm ((eq_iff_of_ties hids).mpr h)).symm
  unfold safetyRails
  rw [hsorted]

end Ranking

/-! ## A tie -/

/-- A goal at risk, as far as the rank looks at it. -/
def riskCard (goalId : String) : Card :=
  { id := StableId.cardId "goal_at_risk" "c1" (some goalId) 7, childId := "c1", priority := 3,
    title := goalId, oneLiner := "", steps := [], why := "", eventIds := [],
    action := .goalDetail goalId, expires := Instant.epoch, templateId := "goal_at_risk",
    windowDays := 7, entityId := some goalId, localized := none }

/-- The keys of the two goals have one hash. Whichever card is given first is first in
rank, and it is the one that the rails keep. -/
theorem tied_cards_stay :
    ¬ ∀ cards cards' : List Card, (∀ c ∈ cards, c.HasStableId) →
      (cards.map Card.identity).Nodup → cards'.Perm cards →
        Ranking.sort cards' = Ranking.sort cards ∧
          (Ranking.safetyRails cards').1 = (Ranking.safetyRails cards).1 := by
  intro hall
  have hids : ∀ c ∈ [riskCard "Aa", riskCard "BB"], c.HasStableId := by
    intro c hc
    rcases List.mem_pair.mp hc with rfl | rfl <;> rfl
  have hsorted (x y : String) (h : Ranking.rankLE (riskCard x) (riskCard y) = true) :
      Ranking.sort [riskCard x, riskCard y] = [riskCard x, riskCard y] :=
    Ranking.sort_of_pairwise (List.pairwise_pair.mpr h)
  obtain ⟨-, hkept⟩ := hall [riskCard "Aa", riskCard "BB"] [riskCard "BB", riskCard "Aa"] hids
    (by decide) (List.Perm.swap _ _ _)
  unfold Ranking.safetyRails at hkept
  rw [hsorted "Aa" "BB" (by decide +kernel), hsorted "BB" "Aa" (by decide +kernel)] at hkept
  exact absurd (congrArg (List.map Card.title) hkept) (by decide)

end MomentInsights
