-- Which cards the safety rails keep. A card stays where fewer cards of its own
-- rail stand before it than the rail takes, and the walk over the cards in rank
-- order finds just these. What it keeps is in rank order and short, so that the
-- cut after it has nothing to drop.
import MomentInsights.Proofs.Order
import MomentInsights.Ranking

namespace MomentInsights.Ranking

/-! ## The rank -/

instance : Std.TransCmp rank :=
  inferInstanceAs (Std.TransCmp (compareLex (fun a b : Card => compareOn Card.priority b a)
    (compareLex (compareOn Card.windowDays)
      (compareLex (fun a b : Card => compareOn (fun c : Card => c.eventIds.length) b a)
        (compareLex (compareOn Card.templateId) (compareOn Card.id))))))

theorem sort_pairwise (cards : List Card) : (sort cards).Pairwise fun a b => rankLE a b = true :=
  Order.pairwise_isLE cards

/-- Cards in rank order stay as they are. -/
theorem sort_of_pairwise {cards : List Card} (h : cards.Pairwise fun a b => rankLE a b = true) :
    sort cards = cards :=
  List.mergeSort_of_pairwise h

/-! ## Places -/

/-- How many of the cards are of the rail of `x` and stand before it: of higher
rank, or of the same rank and built earlier. -/
def ahead (cards : List (Card × Nat)) (x : Card × Nat) : Nat :=
  cards.countP fun y =>
    Rail.ofTemplate y.1.templateId = Rail.ofTemplate x.1.templateId &&
      Order.inTurn rank y x = .lt

/-- With room for so many risk and improvement cards the rail takes a card that
`n` others of the rail stand before. -/
def Rail.takes (risk improvement : Nat) : Rail → Nat → Bool
  | .risk, n => n < risk
  | .improvement, n => n < improvement
  | .neutral, _ => true

/-- Of the cards, this one is first enough on its rail. -/
def inRoom (risk improvement : Nat) (cards : List (Card × Nat)) (x : Card × Nat) : Bool :=
  (Rail.ofTemplate x.1.templateId).takes risk improvement (ahead cards x)

theorem ahead_perm {cards cards' : List (Card × Nat)} (h : cards.Perm cards') (x : Card × Nat) :
    ahead cards x = ahead cards' x := h.countP_eq _

theorem ahead_head {x : Card × Nat} {cards : List (Card × Nat)}
    (h : ∀ y ∈ cards, Order.inTurn rank x y = .lt) : ahead (x :: cards) x = 0 := by
  unfold ahead
  rw [List.countP_eq_zero]
  intro y hy
  have hnot : Order.inTurn rank y x ≠ .lt := by
    rcases List.mem_cons.mp hy with rfl | hy
    · have hself : Order.inTurn rank y y = .eq := Std.ReflCmp.compare_self
      rw [hself]
      decide
    · exact Std.OrientedCmp.not_lt_of_lt (h y hy)
  simp [hnot]

theorem ahead_tail {x y : Card × Nat} {cards : List (Card × Nat)} (h : Order.inTurn rank x y = .lt) :
    ahead (x :: cards) y =
      ahead cards y +
        if Rail.ofTemplate x.1.templateId = Rail.ofTemplate y.1.templateId then 1 else 0 := by
  unfold ahead
  rw [List.countP_cons]
  simp [h]

/-! ## The walk -/

/-- The room for risk and for improvement cards after a card of the rail came by. -/
def Rail.roomAfter (risk improvement : Nat) : Rail → Nat × Nat
  | .risk => (risk - 1, improvement)
  | .improvement => (risk, improvement - 1)
  | .neutral => (risk, improvement)

theorem Rail.takes_succ (risk improvement : Nat) (passed rail : Rail) (n : Nat) :
    rail.takes risk improvement (n + if passed = rail then 1 else 0) =
      rail.takes (passed.roomAfter risk improvement).1 (passed.roomAfter risk improvement).2 n := by
  cases passed <;> cases rail <;> unfold Rail.takes Rail.roomAfter <;> simp <;> omega

/-- One step of the walk. -/
theorem walkRails_cons (risk improvement : Nat) (c : Card) (cs : List Card) :
    (walkRails risk improvement (c :: cs)).1 =
      (if (Rail.ofTemplate c.templateId).takes risk improvement 0 then [c] else []) ++
        (walkRails ((Rail.ofTemplate c.templateId).roomAfter risk improvement).1
          ((Rail.ofTemplate c.templateId).roomAfter risk improvement).2 cs).1 := by
  conv => lhs; unfold walkRails
  cases Rail.ofTemplate c.templateId with
  | risk => cases risk <;> rfl
  | improvement => cases improvement <;> rfl
  | neutral => rfl

/-- The walk keeps the cards that the rails have room for. As cards come by, the
rooms shrink by as much as the numbers of the cards that stand before do. -/
theorem walkRails_kept {xs : List (Card × Nat)}
    (h : xs.Pairwise fun x y => Order.inTurn rank x y = .lt) (risk improvement : Nat) :
    (walkRails risk improvement (xs.map Prod.fst)).1 =
      (xs.filter (inRoom risk improvement xs)).map Prod.fst := by
  induction xs generalizing risk improvement with
  | nil => rfl
  | cons x xs ih =>
    obtain ⟨hx, hxs⟩ := List.pairwise_cons.mp h
    let room := (Rail.ofTemplate x.1.templateId).roomAfter risk improvement
    have hhead : inRoom risk improvement (x :: xs) x =
        (Rail.ofTemplate x.1.templateId).takes risk improvement 0 := by
      unfold inRoom
      rw [ahead_head hx]
    have htail : xs.filter (inRoom risk improvement (x :: xs)) =
        xs.filter (inRoom room.1 room.2 xs) := by
      apply List.filter_congr
      intro y hy
      unfold inRoom
      rw [ahead_tail (hx y hy), Rail.takes_succ]
    rw [List.map_cons, walkRails_cons, List.filter_cons, hhead, htail, ih hxs]
    cases (Rail.ofTemplate x.1.templateId).takes risk improvement 0 <;> rfl

/-- The rails of the cards, taken over all of them. -/
theorem safetyRails_kept (cards : List Card) :
    (safetyRails cards).1 =
      ((Order.placed rank cards).filter (inRoom maxRisk maxImprovement cards.zipIdx)).map
        Prod.fst := by
  have hroom : inRoom maxRisk maxImprovement (Order.placed rank cards) =
      inRoom maxRisk maxImprovement cards.zipIdx := by
    funext x
    unfold inRoom
    rw [ahead_perm (Order.placed_perm cards)]
  have hsorted : sort cards = (Order.placed rank cards).map Prod.fst := (Order.placed_fst cards).symm
  unfold safetyRails
  rw [hsorted, walkRails_kept (Order.placed_pairwise cards), hroom]

theorem safetyRails_sublist (cards : List Card) : (safetyRails cards).1.Sublist (sort cards) := by
  have hsorted : sort cards = (Order.placed rank cards).map Prod.fst := (Order.placed_fst cards).symm
  rw [safetyRails_kept, hsorted]
  exact List.filter_sublist.map _

/-! ## The cards of one rail -/

/-- The card is on the rail. -/
def Rail.holds (rail : Rail) (c : Card) : Bool := Rail.ofTemplate c.templateId = rail

/-- The first cards of a rail, as many as there is room for. -/
def Rail.first (risk improvement : Nat) : Rail → List Card → List Card
  | .risk, cs => cs.take risk
  | .improvement, cs => cs.take improvement
  | .neutral, cs => cs

/-- A card that comes by is first on its rail or not, and takes room from the cards after it. -/
theorem Rail.first_cons (risk improvement : Nat) (passed rail : Rail) (c : Card) (cs : List Card) :
    rail.first risk improvement (if passed = rail then c :: cs else cs) =
      (if passed = rail ∧ passed.takes risk improvement 0 = true then [c] else []) ++
        rail.first (passed.roomAfter risk improvement).1 (passed.roomAfter risk improvement).2
          cs := by
  cases passed with
  | risk => cases risk <;> cases rail <;> simp [Rail.first, Rail.takes, Rail.roomAfter]
  | improvement => cases improvement <;> cases rail <;> simp [Rail.first, Rail.takes, Rail.roomAfter]
  | neutral => cases rail <;> simp [Rail.first, Rail.takes, Rail.roomAfter]

theorem Rail.filter_cons (rail : Rail) (c : Card) (cs : List Card) :
    (c :: cs).filter rail.holds =
      if Rail.ofTemplate c.templateId = rail then c :: cs.filter rail.holds
      else cs.filter rail.holds := by
  rw [List.filter_cons]
  unfold Rail.holds
  simp only [decide_eq_true_iff]

/-- Of a rail the walk keeps the first cards. -/
theorem walkRails_first (risk improvement : Nat) (rail : Rail) (cards : List Card) :
    (walkRails risk improvement cards).1.filter rail.holds =
      rail.first risk improvement (cards.filter rail.holds) := by
  induction cards generalizing risk improvement with
  | nil => cases rail <;> simp [walkRails, Rail.first]
  | cons c cs ih =>
    rw [walkRails_cons, List.filter_append, ih, Rail.filter_cons, Rail.first_cons]
    congr 1
    cases (Rail.ofTemplate c.templateId).takes risk improvement 0 with
    | true => simpa using rail.filter_cons c []
    | false => simp

/-! ## How many are kept -/

theorem walkRails_count (risk improvement : Nat) (cards : List Card) :
    (walkRails risk improvement cards).1.countP (Rail.ofTemplate ·.templateId = .risk) ≤ risk ∧
      (walkRails risk improvement cards).1.countP (Rail.ofTemplate ·.templateId = .improvement) ≤
        improvement := by
  have hrisk := walkRails_first risk improvement .risk cards
  have himprovement := walkRails_first risk improvement .improvement cards
  rw [List.countP_eq_length_filter, List.countP_eq_length_filter]
  exact ⟨Nat.le_trans (Nat.le_of_eq (congrArg List.length hrisk)) (List.length_take_le _ _),
    Nat.le_trans (Nat.le_of_eq (congrArg List.length himprovement)) (List.length_take_le _ _)⟩

/-- Cards that all are of one of the two rails are no more than both rails take. -/
theorem length_le_of_rails {cards : List Card} {risk improvement : Nat}
    (hrails : ∀ c ∈ cards, Rail.ofTemplate c.templateId ≠ .neutral)
    (hrisk : cards.countP (Rail.ofTemplate ·.templateId = .risk) ≤ risk)
    (himprovement : cards.countP (Rail.ofTemplate ·.templateId = .improvement) ≤ improvement) :
    cards.length ≤ risk + improvement := by
  have hsplit := List.length_eq_countP_add_countP
    (fun c : Card => decide (Rail.ofTemplate c.templateId = .risk)) (l := cards)
  have hother : cards.countP (fun c => decide ¬ decide (Rail.ofTemplate c.templateId = .risk) = true) =
      cards.countP (Rail.ofTemplate ·.templateId = .improvement) := by
    apply List.countP_congr
    intro c hc
    have := hrails c hc
    cases hrail : Rail.ofTemplate c.templateId <;> simp_all
  omega

theorem Rail.ofTemplate_name (kind : SignalKind) :
    Rail.ofTemplate kind.name = Rail.ofSignal kind := by
  unfold Rail.ofTemplate
  rw [SignalKind.ofName?_name]

theorem Rail.ofSignal_ne_neutral (kind : SignalKind) : Rail.ofSignal kind ≠ .neutral := by
  cases kind <;> decide

/-- The rails keep no more cards than they have room for, if each card is on one. -/
theorem safetyRails_length {cards : List Card}
    (hrails : ∀ c ∈ cards, Rail.ofTemplate c.templateId ≠ .neutral) :
    (safetyRails cards).1.length ≤ maxRisk + maxImprovement := by
  obtain ⟨hrisk, himprovement⟩ := walkRails_count maxRisk maxImprovement (sort cards)
  apply length_le_of_rails _ hrisk himprovement
  intro c hc
  exact hrails c (List.mem_mergeSort.mp ((safetyRails_sublist cards).subset hc))

/-! ## The risk cards -/

theorem Rail.holds_of_kind (rail : Rail) {c : Card} {kind : SignalKind}
    (h : c.templateId = kind.name) : rail.holds c = decide (Rail.ofSignal kind = rail) := by
  unfold Rail.holds
  rw [h, Rail.ofTemplate_name]

/-- The one risk card that the rails keep is the first of the least in rank. -/
theorem safetyRails_risk {cards : List Card} (h : ∃ c ∈ cards, Rail.risk.holds c = true) :
    ∃ kept, (safetyRails cards).1.filter Rail.risk.holds = [kept] ∧
      Order.FirstLeast rank (cards.filter Rail.risk.holds) kept := by
  have hkept : (safetyRails cards).1.filter Rail.risk.holds =
      ((cards.filter Rail.risk.holds).mergeSort fun a b => (rank a b).isLE).take maxRisk := by
    rw [← Order.filter_sort]
    exact walkRails_first maxRisk maxImprovement .risk (sort cards)
  cases hsorted : (cards.filter Rail.risk.holds).mergeSort fun a b => (rank a b).isLE with
  | nil =>
    obtain ⟨c, hc, hrisk⟩ := h
    have hmem : c ∈ (cards.filter Rail.risk.holds).mergeSort fun a b => (rank a b).isLE :=
      List.mem_mergeSort.mpr (List.mem_filter.mpr ⟨hc, hrisk⟩)
    rw [hsorted] at hmem
    cases hmem
  | cons kept rest =>
    rw [hsorted] at hkept
    exact ⟨kept, hkept, Order.firstLeast_of_sort rank hsorted⟩

/-! ## Why a card is dropped -/

/-- A drop tells the rail of its card. -/
theorem walkRails_drop (risk improvement : Nat) (cards : List Card) :
    ∀ d ∈ (walkRails risk improvement cards).2,
      (Rail.ofTemplate d.card.templateId = .risk ∧ d = riskDrop d.card) ∨
        (Rail.ofTemplate d.card.templateId = .improvement ∧ d = improvementDrop d.card) := by
  fun_induction walkRails risk improvement cards <;> simp_all [riskDrop, improvementDrop]

theorem walkRails_reason (risk improvement : Nat) (cards : List Card) :
    ∀ d ∈ (walkRails risk improvement cards).2, d.reason = .riskRail ∨ d.reason = .improvementRail := by
  intro d hd
  rcases walkRails_drop risk improvement cards d hd with ⟨-, hdrop⟩ | ⟨-, hdrop⟩
  · exact Or.inl (congrArg Dropped.reason hdrop)
  · exact Or.inr (congrArg Dropped.reason hdrop)

/-- A short list in rank order passes the cut whole. -/
theorem truncate_of_short {cards : List Card} {limit : Nat}
    (hsorted : cards.Pairwise fun a b => rankLE a b = true) (hlength : cards.length ≤ limit) :
    truncate cards limit = (cards, []) := by
  unfold truncate cutPoint
  rw [sort_of_pairwise hsorted]
  simp [List.take_of_length_le hlength, List.drop_of_length_le hlength]

end MomentInsights.Ranking
