-- What the safety rails keep is the best that they have room for. The walk cuts the cards of
-- each rail in two where its room ends, and since the cards come in rank order, no card is
-- dropped for another of its rail that ranks after it.
import MomentInsights.Proofs.ReportAccounts

namespace MomentInsights.Ranking

/-! ## The cards of a rail that are dropped -/

/-- The cards after the first ones, for which there is no room. -/
def Rail.rest (risk improvement : Nat) : Rail → List Card → List Card
  | .risk, cs => cs.drop risk
  | .improvement, cs => cs.drop improvement
  | .neutral, _ => []

theorem Rail.first_append_rest (risk improvement : Nat) (rail : Rail) (cs : List Card) :
    rail.first risk improvement cs ++ rail.rest risk improvement cs = cs := by
  cases rail with
  | risk => exact List.take_append_drop _ _
  | improvement => exact List.take_append_drop _ _
  | neutral => exact List.append_nil _

theorem Rail.rest_cons (risk improvement : Nat) (passed rail : Rail) (c : Card) (cs : List Card) :
    rail.rest risk improvement (if passed = rail then c :: cs else cs) =
      (if passed = rail ∧ passed.takes risk improvement 0 = false then [c] else []) ++
        rail.rest (passed.roomAfter risk improvement).1 (passed.roomAfter risk improvement).2
          cs := by
  cases passed with
  | risk => cases risk <;> cases rail <;> simp [Rail.rest, Rail.takes, Rail.roomAfter]
  | improvement => cases improvement <;> cases rail <;> simp [Rail.rest, Rail.takes, Rail.roomAfter]
  | neutral => cases rail <;> simp [Rail.rest, Rail.takes, Rail.roomAfter]

/-- One step of the walk, for what is dropped. -/
theorem walkRails_dropped_cons (risk improvement : Nat) (c : Card) (cs : List Card) :
    (walkRails risk improvement (c :: cs)).2.map (·.card) =
      (if (Rail.ofTemplate c.templateId).takes risk improvement 0 then [] else [c]) ++
        (walkRails ((Rail.ofTemplate c.templateId).roomAfter risk improvement).1
          ((Rail.ofTemplate c.templateId).roomAfter risk improvement).2 cs).2.map (·.card) := by
  conv => lhs; unfold walkRails
  cases Rail.ofTemplate c.templateId with
  | risk => cases risk <;> rfl
  | improvement => cases improvement <;> rfl
  | neutral => rfl

/-- Of a rail the walk drops what comes after the cards that it keeps. -/
theorem walkRails_rest (risk improvement : Nat) (rail : Rail) (cards : List Card) :
    ((walkRails risk improvement cards).2.map (·.card)).filter rail.holds =
      rail.rest risk improvement (cards.filter rail.holds) := by
  induction cards generalizing risk improvement with
  | nil => cases rail <;> simp [walkRails, Rail.rest]
  | cons c cs ih =>
    rw [walkRails_dropped_cons, List.filter_append, ih, Rail.filter_cons, Rail.rest_cons]
    congr 1
    cases (Rail.ofTemplate c.templateId).takes risk improvement 0 with
    | true => simp
    | false => simpa using rail.filter_cons c []

/-- On every rail the cards in rank order are those that are kept and then those that are
dropped. -/
theorem safetyRails_cut (rail : Rail) (cards : List Card) :
    (safetyRails cards).1.filter rail.holds ++
        ((safetyRails cards).2.map (·.card)).filter rail.holds =
      (sort cards).filter rail.holds := by
  unfold safetyRails
  rw [walkRails_first, walkRails_rest, Rail.first_append_rest]

/-! ## The best choice -/

/-- The kept and the dropped cards are all the cards. The kept ones are in rank order, as many
of each rail as it has room for, and no card is dropped for another of its rail that ranks
after it. A drop tells the rail of its card. -/
structure BestChoice (cards kept : List Card) (dropped : List Dropped) : Prop where
  all : (kept ++ dropped.map (·.card)).Perm cards
  sorted : kept.Pairwise fun a b => rankLE a b = true
  neutral : (kept.filter Rail.neutral.holds).Perm (cards.filter Rail.neutral.holds)
  risk : kept.countP Rail.risk.holds = min 1 (cards.countP Rail.risk.holds)
  improvement : kept.countP Rail.improvement.holds = min 2 (cards.countP Rail.improvement.holds)
  best : ∀ d ∈ dropped, ∀ c ∈ kept,
    Rail.ofTemplate d.card.templateId = Rail.ofTemplate c.templateId → rank d.card c ≠ .lt
  reasons : ∀ d ∈ dropped,
    (Rail.ofTemplate d.card.templateId = .risk ∧ d = riskDrop d.card) ∨
      (Rail.ofTemplate d.card.templateId = .improvement ∧ d = improvementDrop d.card)

theorem sort_filter_perm (cards : List Card) (rail : Rail) :
    ((sort cards).filter rail.holds).Perm (cards.filter rail.holds) :=
  (List.mergeSort_perm cards _).filter _

/-- Of a rail with a limit the smaller number is kept: the limit or all cards. -/
theorem countP_take {cards kept : List Card} {rail : Rail} {room : Nat}
    (h : kept.filter rail.holds = ((sort cards).filter rail.holds).take room) :
    kept.countP rail.holds = min room (cards.countP rail.holds) := by
  rw [List.countP_eq_length_filter, h, List.length_take, (sort_filter_perm cards rail).length_eq,
    List.countP_eq_length_filter]

/-- A dropped card does not rank before a kept one of its rail. -/
theorem not_lt_of_dropped {cards : List Card} {d : Dropped} {c : Card}
    (hd : d ∈ (safetyRails cards).2) (hc : c ∈ (safetyRails cards).1)
    (hrail : Rail.ofTemplate d.card.templateId = Rail.ofTemplate c.templateId) :
    rank d.card c ≠ .lt := by
  have hsorted : ((sort cards).filter (Rail.ofTemplate c.templateId).holds).Pairwise
      fun a b => rankLE a b = true :=
    (sort_pairwise cards).filter _
  rw [← safetyRails_cut, List.pairwise_append] at hsorted
  have hkept : c ∈ (safetyRails cards).1.filter (Rail.ofTemplate c.templateId).holds :=
    List.mem_filter.mpr ⟨hc, decide_eq_true rfl⟩
  have hdropped : d.card ∈
      ((safetyRails cards).2.map (·.card)).filter (Rail.ofTemplate c.templateId).holds :=
    List.mem_filter.mpr ⟨List.mem_map_of_mem hd, decide_eq_true hrail⟩
  have hle : (rank c d.card).isLE = true := hsorted.2.2 c hkept d.card hdropped
  intro hlt
  rw [Std.OrientedCmp.gt_of_lt hlt] at hle
  cases hle

/-- Whatever the cards, the safety rails make the best choice of them. -/
theorem safetyRails_best (cards : List Card) :
    BestChoice cards (safetyRails cards).1 (safetyRails cards).2 where
  all := (safetyRails_splits cards).perm.symm
  sorted := (sort_pairwise cards).sublist (safetyRails_sublist cards)
  neutral := by
    have hkept := walkRails_first maxRisk maxImprovement .neutral (sort cards)
    exact hkept ▸ sort_filter_perm cards .neutral
  risk := countP_take (walkRails_first maxRisk maxImprovement .risk (sort cards))
  improvement := countP_take (walkRails_first maxRisk maxImprovement .improvement (sort cards))
  best _ hd _ hc hrail := not_lt_of_dropped hd hc hrail
  reasons := walkRails_drop maxRisk maxImprovement (sort cards)

end MomentInsights.Ranking
