-- What the ids of cards tell apart. Cards that are shown together differ in what their ids are
-- made from, if the goals and the routines are named apart. But an id carries a hash of 32 bits
-- of it, so two cards of one template may have one id. The rails leave room for this among the
-- improvement cards only.
import MomentInsights.Proofs.Selection
import MomentInsights.Proofs.SignalOrder

namespace MomentInsights

/-! ## Templates in keys and ids -/

namespace StableId

/-- The template is read back up to a sign that is not in it. -/
theorem kind_of_prefix (sign : Char) (hsign : ∀ k : SignalKind, sign ∉ k.name.toList)
    {k k' : SignalKind} {rest rest' : List Char}
    (h : k.name.toList ++ sign :: rest = k'.name.toList ++ sign :: rest') : k = k' := by
  have hread (k : SignalKind) (rest : List Char) :
      (k.name.toList ++ sign :: rest).takeWhile (· != sign) = k.name.toList := by
    rw [List.takeWhile_append_of_pos, List.takeWhile_cons_of_neg, List.append_nil]
    · simp
    · intro c hc
      rw [bne_iff_ne]
      rintro rfl
      exact hsign k hc
  have hname := congrArg (List.takeWhile (· != sign)) h
  rw [hread, hread] at hname
  exact SignalKind.name_injective (String.toList_injective hname)

theorem kind_of_key {k k' : SignalKind} {childId childId' : String} {e e' : Option String}
    {days days' : Int} (h : key k.name childId e days = key k'.name childId' e' days') : k = k' := by
  have hlist := congrArg String.toList h
  unfold key at hlist
  simp only [String.toList_append, List.append_assoc] at hlist
  exact kind_of_prefix ':' (by intro k; cases k <;> decide) hlist

theorem kind_of_cardId {k k' : SignalKind} {childId childId' : String} {e e' : Option String}
    {days days' : Int} (h : cardId k.name childId e days = cardId k'.name childId' e' days') :
    k = k' := by
  have hlist := congrArg String.toList h
  unfold cardId at hlist
  simp only [String.toList_append, List.append_assoc] at hlist
  exact kind_of_prefix '-' (by intro k; cases k <;> decide) hlist

/-- An empty name counts as none. -/
theorem key_firstNamed (templateId childId name : String) (days : Int) :
    key templateId childId (firstNamed (some name) none) days =
      key templateId childId (some name) days := by
  by_cases hname : name = ""
  · rw [hname]
    rfl
  · have hnamed : firstNamed (some name) none = some name := if_neg hname
    rw [hnamed]

end StableId

/-! ## The keys of the built cards -/

/-- What the cards of the kind are about. -/
def SignalKind.subjects (goals : List Goal) (routines : List Behavior) :
    SignalKind → List (Option String)
  | .goalAtRisk | .goalStalled => goals.map fun g => some g.id
  | .routineForming | .routineSlipping => routines.map fun b => some b.id
  | .highChallengeWeek => [none]

/-- Results whose keys are those of the elements they come from. -/
theorem Outcome.sublist_of_mapM {ε α β γ κ : Type} {f : α → Except ε β} {g : β → Except ε γ}
    {keep : β → Bool} {xs : List α} {ys : List β} {zs : List γ} (hf : xs.mapM f = .ok ys)
    (hg : (ys.filter keep).mapM g = .ok zs) {keyOf : α → κ} {key : γ → κ}
    (hkey : ∀ x y z, f x = .ok y → keep y = true → g y = .ok z → key z = keyOf x) :
    (zs.map key).Sublist (xs.map keyOf) := by
  obtain ⟨kept, hkept, hsub⟩ := List.sublistForall₂_iff.mp (sublistForall₂_of_mapM hf hg)
  have hmap : zs.map key = kept.map keyOf := by
    rw [← List.forall₂_eq_eq_eq, List.forall₂_map_left_iff, List.forall₂_map_right_iff]
    apply hkept.imp
    rintro z x ⟨y, hy, hkeep, hz⟩
    exact hkey x y z hy hkeep hz
  rw [hmap]
  exact hsub.map keyOf

/-- The keys of the cards of a kind are those of the goals or routines that its detector was
given. -/
theorem keys_of_detector {α : Type} {detect : α → Except Failure Signal} {name : α → Option String}
    {xs : List α} {found : List Signal} {child : Child} {now : Instant} {cards : List Card}
    {kind : SignalKind} (hfound : xs.mapM detect = .ok found)
    (hcards : (found.filter (·.triggered)).mapM (Card.ofSignal · child now) = .ok cards)
    (hkey : ∀ x s, detect x = .ok s → s.triggered = true →
      s.key child.id = StableId.key kind.name child.id (name x) kind.window.days) :
    (cards.map Card.stableKey).Sublist
      ((xs.map name).map fun e => StableId.key kind.name child.id e kind.window.days) := by
  rw [List.map_map]
  apply Outcome.sublist_of_mapM hfound hcards
  intro x s c hs htriggered hcard
  rw [(Card.from_ofSignal hcard).stableKey]
  exact hkey x s hs htriggered

section Built

variable {goals : List Goal} {routines : List Behavior} {t : Timeline} {signals : List Signal}
  {child : Child} {built : List Card}
  (hall : Detect.all goals routines t = .ok signals)
  (hbuilt : (signals.filter (·.triggered)).mapM (Card.ofSignal · child t.now) = .ok built)
include hall hbuilt

/-- Each goal or routine has at most one card of a kind, and the week has one. -/
theorem keys_sublist (kind : SignalKind) :
    ((kind.cardsOf built).map Card.stableKey).Sublist
      ((kind.subjects goals routines).map fun e =>
        StableId.key kind.name child.id e kind.window.days) := by
  have hfound := Detect.all_ofKind hall kind
  have hcards := Card.mapM_cardsOf hbuilt kind
  have hactive : ((Goal.activeOnly goals).map fun g => some g.id).Sublist
      (goals.map fun g => some g.id) := List.filter_sublist.map _
  cases kind with
  | goalAtRisk =>
    refine (keys_of_detector hfound hcards fun g s hs htriggered => ?_).trans (hactive.map _)
    rw [← StableId.key_firstNamed]
    exact (Detect.goalAtRisk_gives hs).key htriggered (fun d hd => hd.2.firstNamed) child.id
  | goalStalled =>
    refine (keys_of_detector hfound hcards fun g s hs htriggered => ?_).trans (hactive.map _)
    rw [← StableId.key_firstNamed]
    exact (Detect.goalStalled_gives hs).key htriggered (fun d hd => hd.2.firstNamed) child.id
  | routineForming =>
    refine keys_of_detector hfound hcards fun b s hs htriggered => ?_
    cases hs
    exact (Detect.routineForming_gives b t).key htriggered (fun d hd => hd.2.entityId) child.id
  | routineSlipping =>
    refine keys_of_detector hfound hcards fun b s hs htriggered => ?_
    exact (Detect.routineSlipping_gives hs).key htriggered (fun d hd => hd.2.entityId) child.id
  | highChallengeWeek =>
    change List.Sublist _ (([t].map fun _ => none).map _)
    refine keys_of_detector hfound hcards fun _ s hs htriggered => ?_
    exact (Detect.highChallengeWeek_gives hs).key htriggered (fun d hd => hd.2.1) child.id

theorem subject_of_card {c : Card} (hc : c ∈ built) {kind : SignalKind}
    (htemplate : c.templateId = kind.name) :
    ∃ e ∈ kind.subjects goals routines,
      StableId.key kind.name child.id e kind.window.days = c.stableKey := by
  have hcard : c ∈ kind.cardsOf built := List.mem_filter.mpr ⟨hc, beq_iff_eq.mpr htemplate⟩
  exact List.mem_map.mp ((keys_sublist hall hbuilt kind).subset (List.mem_map_of_mem hcard))

end Built

theorem kind_of_built {signals : List Signal} {child : Child} {now : Instant} {built : List Card}
    (hbuilt : signals.mapM (Card.ofSignal · child now) = .ok built) {c : Card} (hc : c ∈ built) :
    c.HasStableId ∧ ∃ kind : SignalKind, c.templateId = kind.name := by
  obtain ⟨s, -, hcard⟩ := Outcome.exists_of_mem_mapM hbuilt hc
  have hfrom := Card.from_ofSignal hcard
  exact ⟨hfrom.id, s.kind, hfrom.templateId⟩

/-! ## Names -/

/-- The names are none of them empty and all different. -/
structure Named (names : List String) : Prop where
  nonempty : ∀ a ∈ names, a ≠ ""
  nodup : names.Nodup

theorem Named.keys_nodup {α : Type} {name : α → String} {xs : List α} (h : Named (xs.map name))
    (templateId childId : String) (days : Int) :
    ((xs.map fun x => some (name x)).map fun e =>
      StableId.key templateId childId e days).Nodup := by
  rw [List.map_map]
  apply (List.Nodup.of_map name h.nodup).map_on
  intro x hx y hy hkey
  have hx' : name x ∈ xs.map name := List.mem_map_of_mem hx
  have hy' : name y ∈ xs.map name := List.mem_map_of_mem hy
  apply List.inj_on_of_nodup_map h.nodup hx hy
  exact StableId.key_injective (h.nonempty _ hx') (h.nonempty _ hy') hkey

theorem StableId.Distinguishes.key_eq_of_hash {kinds : List SignalKind} {childId : String}
    {α : Type} {name : α → String} {xs : List α} (h : Distinguishes kinds childId (xs.map name))
    {kind : SignalKind} (hkind : kind ∈ kinds) {e e' : Option String}
    (he : e ∈ xs.map fun x => some (name x)) (he' : e' ∈ xs.map fun x => some (name x))
    (hhash : hash (key kind.name childId e kind.window.days) =
      hash (key kind.name childId e' kind.window.days)) :
    key kind.name childId e kind.window.days = key kind.name childId e' kind.window.days := by
  obtain ⟨x, hx, rfl⟩ := List.mem_map.mp he
  obtain ⟨y, hy, rfl⟩ := List.mem_map.mp he'
  exact h.apart kind hkind _ (List.mem_map_of_mem hx) _ (List.mem_map_of_mem hy) hhash

section Apart

variable {goals : List Goal} {routines : List Behavior} {t : Timeline} {signals : List Signal}
  {child : Child} {built : List Card} (hgoals : Named (goals.map (·.id)))
  (hroutines : Named (routines.map (·.id)))
include hgoals hroutines

theorem subjects_nodup (kind : SignalKind) (childId : String) :
    ((kind.subjects goals routines).map fun e =>
      StableId.key kind.name childId e kind.window.days).Nodup := by
  cases kind with
  | goalAtRisk => exact hgoals.keys_nodup _ _ _
  | goalStalled => exact hgoals.keys_nodup _ _ _
  | routineForming => exact hroutines.keys_nodup _ _ _
  | routineSlipping => exact hroutines.keys_nodup _ _ _
  | highChallengeWeek => exact List.nodup_singleton _

/-- What the ids of the built cards are made from is different for each two. -/
theorem built_apart (hall : Detect.all goals routines t = .ok signals)
    (hbuilt : (signals.filter (·.triggered)).mapM (Card.ofSignal · child t.now) = .ok built) :
    (built.map Card.stableKey).Nodup := by
  unfold List.Nodup
  rw [List.pairwise_map, List.pairwise_iff_forall_sublist]
  intro a b hab hkey
  have ha : a ∈ built := hab.subset List.mem_cons_self
  have hb : b ∈ built := hab.subset (List.mem_cons_of_mem a List.mem_cons_self)
  obtain ⟨-, kind, hkind⟩ := kind_of_built hbuilt ha
  obtain ⟨-, kind', hkind'⟩ := kind_of_built hbuilt hb
  obtain ⟨e, -, he⟩ := subject_of_card hall hbuilt ha hkind
  obtain ⟨e', -, he'⟩ := subject_of_card hall hbuilt hb hkind'
  -- The key tells the template, and within a template the goals or the routines differ.
  obtain rfl : kind = kind' := StableId.kind_of_key ((he.trans hkey).trans he'.symm)
  have hcards := (subjects_nodup hgoals hroutines kind child.id).sublist
    (keys_sublist hall hbuilt kind)
  unfold List.Nodup SignalKind.cardsOf at hcards
  rw [List.pairwise_map, List.pairwise_filter, List.pairwise_iff_forall_sublist] at hcards
  exact hcards hab (beq_iff_eq.mpr hkind) (beq_iff_eq.mpr hkind') hkey

end Apart

/-! ## Ids -/

/-- Ids are equal just where the templates are and the hashes of the keys. -/
theorem Card.id_eq_iff {a b : Card} (ha : a.HasStableId) (hb : b.HasStableId) {kind kind' : SignalKind}
    (hkind : a.templateId = kind.name) (hkind' : b.templateId = kind'.name) :
    a.id = b.id ↔
      a.templateId = b.templateId ∧ StableId.hash a.stableKey = StableId.hash b.stableKey := by
  unfold Card.stableKey
  rw [ha, hb, hkind, hkind']
  constructor
  · intro hid
    obtain rfl : kind = kind' := StableId.kind_of_cardId hid
    exact ⟨rfl, (StableId.cardId_inj _ _ _ _ _ _ _).mp hid⟩
  · rintro ⟨hname, hhash⟩
    obtain rfl : kind = kind' := SignalKind.name_injective hname
    exact (StableId.cardId_inj _ _ _ _ _ _ _).mpr hhash

namespace Engine

open Cooldown (Store)

/-- What the ids of some cards tell. -/
structure TellsApart (cards : List Card) : Prop where
  keys : (cards.map Card.stableKey).Nodup
  ids : (cards.map Card.id).Nodup ↔ cards.Pairwise fun a b =>
    a.templateId = b.templateId → StableId.hash a.stableKey ≠ StableId.hash b.stableKey
  /-- Only improvement cards may share an id. -/
  rail : cards.Pairwise fun a b => a.id = b.id →
    Ranking.Rail.ofTemplate a.templateId = .improvement

theorem pairwise_of_one {α : Type} {R : α → α → Prop} {xs : List α} (h : xs.length ≤ 1) :
    xs.Pairwise R := by
  rw [List.pairwise_iff_getElem]
  intro i j hi hj hij
  omega

theorem tellsApart_of_one {cards : List Card} (h : cards.length ≤ 1) : TellsApart cards where
  keys := pairwise_of_one (by rwa [List.length_map])
  ids := iff_of_true (pairwise_of_one (by rwa [List.length_map])) (pairwise_of_one h)
  rail := pairwise_of_one h

section Evaluated

variable {child : Child} {t : Timeline} {p : Cooldown.Periods} {rs : List Cooldown.Record}
  {r : Report} (hr : Evaluates child t p rs r)
include hr

/-- What is shown is some of what is built, in another order. -/
theorem Evaluates.selected_subperm : r.selected.Subperm r.built := by
  have hsorted : r.selected.Sublist (Ranking.sort (Evidence.valid t.eventIds r.built)) := by
    rw [hr.selected]
    exact List.filter_sublist.trans (Ranking.safetyRails_sublist _)
  have hvalid : (Evidence.valid t.eventIds r.built).Sublist r.built := List.filter_sublist
  exact (hsorted.subperm.trans (List.mergeSort_perm _ _).subperm).trans hvalid.subperm

theorem Evaluates.kind_of_selected {c : Card} (hc : c ∈ r.selected) :
    c.HasStableId ∧ ∃ kind : SignalKind, c.templateId = kind.name :=
  kind_of_built hr.built (hr.selected_subperm.subset hc)

theorem Evaluates.one_risk :
    r.selected.Pairwise fun a b =>
      Ranking.Rail.risk.holds a = true → Ranking.Rail.risk.holds b = true → False := by
  have hcount := hr.selected_few.2.1
  rw [List.countP_eq_length_filter] at hcount
  rw [← List.pairwise_filter]
  exact pairwise_of_one hcount

variable {goals : List Goal} {routines : List Behavior}

theorem Evaluates.tellsApart (hall : Detect.all goals routines t = .ok r.signals)
    (hgoals : Named (goals.map (·.id))) (hroutines : Named (routines.map (·.id))) :
    TellsApart r.selected := by
  refine ⟨?_, ?_, ?_⟩
  · obtain ⟨cards, hperm, hsub⟩ := hr.selected_subperm
    rw [← (hperm.map Card.stableKey).nodup_iff]
    exact (built_apart hgoals hroutines hall hr.built).sublist (hsub.map _)
  · unfold List.Nodup
    rw [List.pairwise_map]
    apply List.Pairwise.iff_of_mem
    intro a b ha hb
    obtain ⟨hid, kind, hkind⟩ := hr.kind_of_selected ha
    obtain ⟨hid', kind', hkind'⟩ := hr.kind_of_selected hb
    rw [Ne, Card.id_eq_iff hid hid' hkind hkind', not_and]
  · apply hr.one_risk.imp_of_mem
    intro a b ha hb hrisk hid
    obtain ⟨hstable, kind, hkind⟩ := hr.kind_of_selected ha
    obtain ⟨hstable', kind', hkind'⟩ := hr.kind_of_selected hb
    have htemplate := ((Card.id_eq_iff hstable hstable' hkind hkind').mp hid).1
    cases hrail : Ranking.Rail.ofTemplate a.templateId with
    | improvement => rfl
    | neutral =>
      rw [hkind, Ranking.Rail.ofTemplate_name] at hrail
      exact absurd hrail (Ranking.Rail.ofSignal_ne_neutral kind)
    | risk =>
      have ha : Ranking.Rail.risk.holds a = true := decide_eq_true hrail
      have hb : Ranking.Rail.risk.holds b = true := decide_eq_true (htemplate ▸ hrail)
      exact (hrisk ha hb).elim

/-- The hash need not tell the goals at risk apart: the rails let one of them pass. -/
theorem Evaluates.ids_nodup (hall : Detect.all goals routines t = .ok r.signals)
    (hgoals : StableId.Distinguishes [.goalStalled] child.id (goals.map (·.id)))
    (hroutines : StableId.Distinguishes [.routineForming, .routineSlipping] child.id
      (routines.map (·.id))) : (r.selected.map Card.id).Nodup := by
  have hapart := hr.tellsApart hall ⟨hgoals.nonempty, hgoals.nodup⟩
    ⟨hroutines.nonempty, hroutines.nodup⟩
  have hkeys := hapart.keys
  unfold List.Nodup at hkeys
  rw [List.pairwise_map] at hkeys
  rw [hapart.ids]
  apply (hkeys.and hr.one_risk).imp_of_mem
  rintro a b ha hb ⟨hkey, hrisk⟩ htemplate hhash
  obtain ⟨-, kind, hkind⟩ := hr.kind_of_selected ha
  have hkind' : b.templateId = kind.name := htemplate ▸ hkind
  obtain ⟨e, he, hea⟩ := subject_of_card hall hr.built (hr.selected_subperm.subset ha) hkind
  obtain ⟨e', he', heb⟩ := subject_of_card hall hr.built (hr.selected_subperm.subset hb) hkind'
  rw [← hea, ← heb] at hkey hhash
  cases kind with
  | goalAtRisk =>
    exact hrisk (Ranking.Rail.holds_of_kind .risk hkind) (Ranking.Rail.holds_of_kind .risk hkind')
  | goalStalled => exact hkey (hgoals.key_eq_of_hash (by decide) he he' hhash)
  | routineForming => exact hkey (hroutines.key_eq_of_hash (by decide) he he' hhash)
  | routineSlipping => exact hkey (hroutines.key_eq_of_hash (by decide) he he' hhash)
  | highChallengeWeek =>
    exact hrisk (Ranking.Rail.holds_of_kind .risk hkind) (Ranking.Rail.holds_of_kind .risk hkind')

end Evaluated

/-- At most one card is shown, or those that an evaluation selects. -/
theorem generate_cards {src : Source} {store store' : Store} {childId : String} {now : Instant}
    {cards : List Card} (h : generate src store childId now = .ok (cards, store')) :
    let t := Timeline.ofEvents (src.events childId) now
    cards.length ≤ 1 ∨ ∃ child rs r, src.child childId = some child ∧
      Detect.all (src.goals childId) src.routines t = .ok r.signals ∧
      Evaluates child t store.periods rs r ∧ r.selected = cards := by
  rw [generate_eq] at h
  cases hrun : run src store childId now with
  | error f =>
    rw [hrun] at h
    cases h
  | ok found =>
    obtain ⟨r, read⟩ := found
    rw [hrun] at h
    cases h
    cases run_ends hrun with
    | unknown hchild => exact Or.inl (Nat.zero_le 1)
    | few hchild hfew hsurvey => exact Or.inl (Nat.le_refl 1)
    | full hchild hevents hrecords hall hr => exact Or.inr ⟨_, _, r, hchild, hall, hr, rfl⟩

/-- Cards that one call shows differ in what their ids are made from, if the goals and the
routines are named apart. Their ids differ just when the hash tells those of one template
apart; if two share an id, they are improvement cards. So the ids differ where the hash tells
the stalled goals apart, and the forming and slipping routines. -/
theorem shown_ids_differ_iff {src : Source} {store store' : Store} {childId : String}
    {now : Instant} {cards : List Card} (hgoals : Named ((src.goals childId).map (·.id)))
    (hroutines : Named (src.routines.map (·.id)))
    (h : generate src store childId now = .ok (cards, store')) :
    TellsApart cards ∧
      ((∀ child, src.child childId = some child →
          StableId.Distinguishes [.goalStalled] child.id ((src.goals childId).map (·.id)) ∧
            StableId.Distinguishes [.routineForming, .routineSlipping] child.id
              (src.routines.map (·.id))) →
        (cards.map Card.id).Nodup) := by
  rcases generate_cards h with hone | ⟨child, rs, r, hchild, hall, hr, rfl⟩
  · exact ⟨tellsApart_of_one hone, fun _ => pairwise_of_one (by rwa [List.length_map])⟩
  · refine ⟨hr.tellsApart hall hgoals hroutines, fun htold => ?_⟩
    obtain ⟨htoldGoals, htoldRoutines⟩ := htold child hchild
    exact hr.ids_nodup hall htoldGoals htoldRoutines

theorem twoGoals_cards :
    (survey twoGoals {} "c1" oldChild twentiethDay >>= fun x =>
      (x.1.triggered.mapM (Card.ofSignal · oldChild twentiethDay)).map (·.map (·.templateId))) =
        .ok ["goal_at_risk", "goal_stalled", "goal_at_risk", "goal_stalled"] := by
  decide +kernel

/-- The ids g1 and g2 are told apart, and both goals have stalled. -/
theorem shown_ids_differ_twoGoals :
    ∃ cards store', generate twoGoals {} "c1" twentiethDay = .ok (cards, store') ∧
      TellsApart cards ∧ (cards.map Card.id).Nodup := by
  have hchild : twoGoals.child "c1" = some oldChild := rfl
  have hevents : minEvents ≤
      (Timeline.ofEvents (twoGoals.events "c1") twentiethDay).fortnight.length := oldSource_enough
  have htold : StableId.Distinguishes [.goalStalled] "c1" ((twoGoals.goals "c1").map (·.id)) :=
    ⟨by decide +kernel, by decide +kernel, by decide +kernel⟩
  have hnone (kinds : List SignalKind) :
      StableId.Distinguishes kinds "c1" (twoGoals.routines.map (·.id)) :=
    ⟨nofun, List.nodup_nil, nofun⟩
  obtain ⟨r, store', rs, hrun, -⟩ := run_of_cards hchild hevents twoGoals_cards
  have hgenerate : generate twoGoals {} "c1" twentiethDay = .ok (r.selected, store') := by
    rw [generate_eq, hrun]
    rfl
  obtain ⟨hapart, hids⟩ := shown_ids_differ_iff ⟨htold.nonempty, htold.nodup⟩
    ⟨(hnone []).nonempty, (hnone []).nodup⟩ hgenerate
  refine ⟨r.selected, store', hgenerate, hapart, hids ?_⟩
  intro child hchild'
  cases hchild.symm.trans hchild'
  exact ⟨htold, hnone _⟩

/-- Two stalled goals whose ids the hash takes for one. -/
def twoStalled : Source :=
  Roster.source {
    children := [oldChild]
    events := oldMoments
    goals := [{ nearGoal with id := "Aa", due := none }, { nearGoal with id := "BB", due := none }]
    behaviors := [] }

theorem twoStalled_enough : minEvents ≤
    (Timeline.ofEvents (twoStalled.events "c1") twentiethDay).fortnight.length := by
  decide +kernel

/-- Both cards are built, in rank order, and the rails keep both. -/
theorem twoStalled_cards :
    (survey twoStalled {} "c1" oldChild twentiethDay >>= fun x =>
      (x.1.triggered.mapM (Card.ofSignal · oldChild twentiethDay)).map fun built =>
        let valid := Evidence.valid (oldMoments.map (·.id)) built
        (decide (valid.Pairwise fun a b => Ranking.rankLE a b = true),
          (Ranking.walkRails Ranking.maxRisk Ranking.maxImprovement valid).1.map (·.id))) =
      .ok (true, ["goal_stalled-c0a52a28", "goal_stalled-c0a52a28"]) := by
  decide +kernel

/-- Both cards are shown, with one id. -/
theorem two_cards_of_one_id :
    ¬ ∀ (src : Source) (store store' : Store) (childId : String) (now : Instant)
      (cards : List Card), Named ((src.goals childId).map (·.id)) →
        Named (src.routines.map (·.id)) →
        generate src store childId now = .ok (cards, store') → (cards.map Card.id).Nodup := by
  intro hall
  have hchild : twoStalled.child "c1" = some oldChild := rfl
  obtain ⟨r, store', rs, hrun, hrecords, hr, hcards⟩ :=
    run_of_cards hchild twoStalled_enough twoStalled_cards
  obtain ⟨hsorted, hkept⟩ := Prod.mk.inj hcards
  have hselected : r.selected.map Card.id = ["goal_stalled-c0a52a28", "goal_stalled-c0a52a28"] := by
    cases hrecords
    have hsort := Ranking.sort_of_pairwise (of_decide_eq_true hsorted)
    have hrails : Ranking.safetyRails (Evidence.valid (oldMoments.map (·.id)) r.built) =
        Ranking.walkRails Ranking.maxRisk Ranking.maxImprovement
          (Evidence.valid (oldMoments.map (·.id)) r.built) := by
      unfold Ranking.safetyRails
      rw [hsort]
    rw [← hkept, ← hrails, hr.selected]
    exact congrArg (List.map Card.id) (List.filter_eq_self.mpr fun c _ => rfl)
  have hgenerate : generate twoStalled {} "c1" twentiethDay = .ok (r.selected, store') := by
    rw [generate_eq, hrun]
    rfl
  have hnodup := hall twoStalled {} store' "c1" twentiethDay r.selected
    ⟨by decide +kernel, by decide +kernel⟩ ⟨nofun, List.nodup_nil⟩ hgenerate
  rw [hselected] at hnodup
  exact absurd hnodup (by decide)

end Engine

end MomentInsights
