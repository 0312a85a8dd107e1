-- The states that requests lead to while the clock stays among the supported times. In each
-- of them the tables fit together: no id stands twice in a table, rewards and moments are
-- those of children that exist, the active reward of a child is one of its own, and the
-- cooldown text is one that the service wrote, about children that exist.
import MomentInsights.Proofs.SeenCards

namespace MomentInsights

open Cooldown (Record)

/-! ## Records of displays -/

namespace Cooldown

variable {child? : String → Option Child} {rs : List Record}

/-- One record for each pair, of a child that exists and at a supported time. -/
structure BelongTo (child? : String → Option Child) (rs : List Record) : Prop where
  once : rs.Pairwise fun r r' => ¬ r.samePair r'
  rows : ∀ r ∈ rs, ∃ templateId childId, r = .ofPair (templateId, childId) r.shown ∧
    (child? childId).isSome ∧ r.shown.Supported

theorem BelongTo.nil (child? : String → Option Child) : BelongTo child? [] := ⟨.nil, by simp⟩

/-- Records stay those of children that exist where no child is lost. -/
theorem BelongTo.mono (h : BelongTo child? rs) {others? : String → Option Child}
    (hknown : ∀ id, (child? id).isSome → (others? id).isSome) : BelongTo others? rs := by
  refine ⟨h.once, ?_⟩
  intro r hr
  obtain ⟨templateId, childId, hpair, hchild, hshown⟩ := h.rows r hr
  exact ⟨templateId, childId, hpair, hknown childId hchild, hshown⟩

theorem BelongTo.readsBack (h : BelongTo child? rs) :
    ∀ r ∈ rs, Periods.standard.ReadsBack r := by
  intro r hr
  obtain ⟨templateId, childId, hpair, -, hshown⟩ := h.rows r hr
  rw [hpair]
  exact readsBack_ofPair (Engine.hasEnd_of_supported hshown.2) (templateId, childId)

theorem BelongTo.kept (h : BelongTo child? rs) {pairs : List (String × String)} {time : Instant}
    (hpairs : ∀ pair ∈ pairs, (child? pair.2).isSome) (htime : time.Supported) :
    BelongTo child? (Store.kept .standard rs pairs time) := by
  refine ⟨(once_replaced h.once pairs time).filter _, ?_⟩
  intro r hr
  rcases Store.mem_of_mem_kept hr with hold | ⟨pair, hpair, rfl⟩
  · exact h.rows r hold
  · exact ⟨pair.1, pair.2, rfl, hpairs pair hpair, htime⟩

end Cooldown

/-! ## Tables that fit together -/

namespace Tables

structure WellFormed (t : Tables) : Prop where
  childIds : (t.children.map (·.id)).Nodup
  behaviorIds : (t.behaviors.map (·.id)).Nodup
  rewardIds : (t.rewards.map (·.id)).Nodup
  momentIds : (t.moments.map (·.id)).Nodup
  rewardChild : ∀ r ∈ t.rewards, (t.child? r.childId).isSome
  momentChild : ∀ m ∈ t.moments, (t.child? m.childId).isSome
  /-- The active reward of a child is one of its own. -/
  activeReward : ∀ c ∈ t.children, ∀ id, c.activeGoalId = some id →
    ∃ r ∈ t.rewards, r.id = id ∧ r.childId = c.id
  cooldowns : ∀ text, t.cooldowns = some text →
    ∃ rs, text = Cooldown.encode rs ∧ Cooldown.BelongTo t.child? rs

/-- The numbers of the rows lie within the bounds that were checked when they were stored. -/
structure InBounds (t : Tables) : Prop where
  points : ∀ m ∈ t.moments, Service.isStorable m.points = true
  targets : ∀ r ∈ t.rewards, 0 < r.targetPoints ∧ r.targetPoints ≤ 100000
  frozen : ∀ r ∈ t.rewards, Service.isStorable (r.frozenPoints.getD 0) = true

variable {t : Tables}

theorem WellFormed.empty : WellFormed {} := by
  constructor <;> simp

theorem InBounds.empty : InBounds {} := by
  constructor <;> simp

/-- The stored text reads as records that fit. -/
theorem WellFormed.decode (h : t.WellFormed) (room : Cooldown.Room) :
    ∃ rs, Cooldown.decode .standard room t.cooldowns = .ok rs ∧
      Cooldown.BelongTo t.child? rs := by
  cases hstored : t.cooldowns with
  | none => exact ⟨[], Cooldown.decode_none _ room, .nil _⟩
  | some text =>
    obtain ⟨rs, rfl, hrs⟩ := h.cooldowns text hstored
    exact ⟨rs, Cooldown.decode_encode hrs.readsBack room, hrs⟩

/-! ## New rows -/

theorem nodup_added {α : Type} {id : α → String} {rows : List α} {row : α}
    (h : (rows.map id).Nodup) (hnew : rows.find? (id · == id row) = none) :
    ((rows ++ [row]).map id).Nodup := by
  rw [List.map_append, List.map_singleton, ← List.concat_eq_append]
  apply h.concat
  intro hmem
  obtain ⟨other, hother, hsame⟩ := List.mem_map.mp hmem
  exact List.find?_eq_none.mp hnew other hother (beq_iff_eq.mpr hsame)

theorem child?_addChild_isSome {c : Child} (id : String) (h : (t.child? id).isSome) :
    ((t.addChild c).child? id).isSome := by
  unfold child? addChild at *
  rw [List.find?_append, Option.isSome_or, h, Bool.true_or]

theorem WellFormed.addChild (h : t.WellFormed) {c : Child} (hnew : t.child? c.id = none)
    (hactive : c.activeGoalId = none) : (t.addChild c).WellFormed where
  childIds := nodup_added h.childIds hnew
  behaviorIds := h.behaviorIds
  rewardIds := h.rewardIds
  momentIds := h.momentIds
  rewardChild r hr := child?_addChild_isSome _ (h.rewardChild r hr)
  momentChild m hm := child?_addChild_isSome _ (h.momentChild m hm)
  activeReward c' hc' id hid := by
    rcases List.mem_append.mp hc' with hold | hnew
    · exact h.activeReward c' hold id hid
    · rw [List.mem_singleton.mp hnew, hactive] at hid
      cases hid
  cooldowns text htext := by
    obtain ⟨rs, hwritten, hrs⟩ := h.cooldowns text htext
    exact ⟨rs, hwritten, hrs.mono child?_addChild_isSome⟩

theorem WellFormed.addBehavior (h : t.WellFormed) {b : Behavior} (hnew : t.behavior? b.id = none) :
    (t.addBehavior b).WellFormed :=
  { h with behaviorIds := nodup_added h.behaviorIds hnew }

theorem WellFormed.addReward (h : t.WellFormed) {r : Reward} (hnew : t.reward? r.id = none)
    (hchild : (t.child? r.childId).isSome) : (t.addReward r).WellFormed :=
  { h with
    rewardIds := nodup_added h.rewardIds hnew
    rewardChild := by
      intro r' hr'
      rcases List.mem_append.mp hr' with hold | hnew
      · exact h.rewardChild r' hold
      · rw [List.mem_singleton.mp hnew]
        exact hchild
    activeReward := by
      intro c hc id hid
      obtain ⟨r', hr', hown⟩ := h.activeReward c hc id hid
      exact ⟨r', List.mem_append_left _ hr', hown⟩ }

/-- A reward becomes the active one of its child. -/
theorem WellFormed.activate (h : t.WellFormed) {r : Reward} (hr : r ∈ t.rewards) :
    (t.activate r.childId r.id).WellFormed where
  childIds := by
    have hids : (t.activate r.childId r.id).children.map (·.id) = t.children.map (·.id) := by
      unfold Tables.activate
      rw [List.map_map]
      apply List.map_congr_left
      intro c _
      rw [Function.comp_apply]
      split <;> rfl
    rw [hids]
    exact h.childIds
  behaviorIds := h.behaviorIds
  rewardIds := h.rewardIds
  momentIds := h.momentIds
  rewardChild r' hr' := by
    rw [child?_activate_isSome]
    exact h.rewardChild r' hr'
  momentChild m hm := by
    rw [child?_activate_isSome]
    exact h.momentChild m hm
  activeReward c hc id hid := by
    obtain ⟨c', hc', rfl⟩ := List.mem_map.mp hc
    by_cases hsame : c'.id = r.childId
    · simp only [hsame, beq_self_eq_true, if_true] at hid ⊢
      cases hid
      exact ⟨r, hr, rfl, rfl⟩
    · simp only [beq_eq_false_iff_ne.mpr hsame, Bool.false_eq_true, if_false] at hid ⊢
      exact h.activeReward c' hc' id hid
  cooldowns text htext := by
    obtain ⟨rs, hwritten, hrs⟩ := h.cooldowns text htext
    refine ⟨rs, hwritten, hrs.mono ?_⟩
    intro id hid
    rw [child?_activate_isSome]
    exact hid

theorem WellFormed.addMoment (h : t.WellFormed) {m : Moment} (hnew : t.moment? m.id = none)
    (hchild : (t.child? m.childId).isSome) : (t.addMoment m).WellFormed :=
  { h with
    momentIds := nodup_added h.momentIds hnew
    momentChild := by
      intro m' hm'
      rcases List.mem_append.mp hm' with hold | hnew
      · exact h.momentChild m' hold
      · rw [List.mem_singleton.mp hnew]
        exact hchild }

theorem WellFormed.withText (h : t.WellFormed) {rs : List Record}
    (hrs : Cooldown.BelongTo t.child? rs) :
    { t with cooldowns := some (Cooldown.encode rs) }.WellFormed :=
  { h with
    cooldowns := by
      rintro text htext
      cases htext
      exact ⟨rs, rfl, hrs⟩ }

theorem InBounds.addReward (h : t.InBounds) {r : Reward}
    (htarget : 0 < r.targetPoints ∧ r.targetPoints ≤ 100000)
    (hfrozen : Service.isStorable (r.frozenPoints.getD 0) = true) : (t.addReward r).InBounds :=
  { h with
    targets := by
      intro r' hr'
      rcases List.mem_append.mp hr' with hold | hnew
      · exact h.targets r' hold
      · rw [List.mem_singleton.mp hnew]
        exact htarget
    frozen := by
      intro r' hr'
      rcases List.mem_append.mp hr' with hold | hnew
      · exact h.frozen r' hold
      · rw [List.mem_singleton.mp hnew]
        exact hfrozen }

theorem InBounds.addMoment (h : t.InBounds) {m : Moment}
    (hpoints : Service.isStorable m.points = true) :
    (t.addMoment m).InBounds :=
  { h with
    points := by
      intro m' hm'
      rcases List.mem_append.mp hm' with hold | hnew
      · exact h.points m' hold
      · rw [List.mem_singleton.mp hnew]
        exact hpoints }

end Tables

/-! ## Requests -/

namespace Service

open Cooldown (Store)

/-- The tables fit together, and their numbers lie within bounds. -/
def Sound (t : Tables) : Prop := t.WellFormed ∧ t.InBounds

theorem Judged.sound {t : Tables} {f : MomentForm} {id : String} {l : Logged} (h : Sound t)
    (hjudged : Judged t f id l) : Sound (t.withMoments (storedOf [l])) := by
  cases hjudged with
  | unknownChild =>
    rw [storedOf_refused, Tables.withMoments_nil]
    exact h
  | taken =>
    rw [storedOf_refused, Tables.withMoments_nil]
    exact h
  | unknownBehavior =>
    rw [storedOf_refused, Tables.withMoments_nil]
    exact h
  | stored hchild hnew _ _ hfits =>
    rw [storedOf_stored]
    exact ⟨h.1.addMoment hnew hchild, h.2.addMoment hfits⟩

theorem Sound.withReward {t : Tables} (h : Sound t) {r : Reward} {f : RewardForm}
    (hcheck : ∃ j, RewardForm.check j = .good f) (hr : f.reward? r.id r.created = some r)
    (hchild : (t.child? r.childId).isSome) (hnew : t.reward? r.id = none) (active : Bool) :
    Sound (Server.withReward t r active) := by
  obtain ⟨j, hcheck⟩ := hcheck
  obtain ⟨-, -, -, htarget, hfrozen⟩ := Server.reward?_fields hr
  have hbounds : (t.addReward r).InBounds :=
    h.2.addReward (htarget ▸ RewardForm.check_target hcheck) hfrozen
  have hadded := h.1.addReward hnew hchild
  unfold Server.withReward
  cases active with
  | false => exact ⟨hadded, hbounds⟩
  | true =>
    have hstored : r ∈ (t.addReward r).rewards := List.mem_append_right _ List.mem_cons_self
    exact ⟨hadded.activate hstored, hbounds.points, hbounds.targets, hbounds.frozen⟩

/-- Displays to a child that exists, at a supported time. -/
theorem Sound.displayed {s : Server} (h : Sound s.tables) {pairs : List (String × String)}
    {time : Instant} {store' : Store} (hpairs : ∀ pair ∈ pairs, (s.tables.child? pair.2).isSome)
    (htime : time.Supported) (hstore : s.store.displayed pairs time = .ok store') :
    Sound { s.tables with cooldowns := store'.text } := by
  by_cases hnone : pairs = []
  · rw [Store.displayed_eq, if_pos hnone] at hstore
    cases hstore
    exact h
  · obtain ⟨rs, hdecode, hrs⟩ := h.1.decode s.settings.room
    have hend : s.store.periods.hasEnd time = true := Engine.hasEnd_of_supported htime.2
    rw [Store.displayed_eq, if_neg hnone] at hstore
    obtain ⟨rs', hdecode', -, rfl⟩ := (Store.record_written hend).mp hstore
    cases hdecode.symm.trans hdecode'
    exact ⟨h.1.withText (hrs.kept hpairs htime), h.2.points, h.2.targets, h.2.frozen⟩

namespace Server

/-- Whatever a request does, it keeps the tables sound. -/
theorem Served.sound {s : Server} {q : Request} {reply : Reply} {t : Tables}
    (h : Served s q reply t) (hclock : s.clock.Supported) (hs : Sound s.tables) : Sound t := by
  cases h with
  | unchanged => exact hs
  | child _ hnew hactive =>
    exact ⟨hs.1.addChild hnew hactive, hs.2.points, hs.2.targets, hs.2.frozen⟩
  | behavior _ hnew => exact ⟨hs.1.addBehavior hnew, hs.2.points, hs.2.targets, hs.2.frozen⟩
  | reward _ hform hr hchild hnew =>
    exact hs.withReward (Request.form_eq_ok hform) hr hchild hnew _
  | moments => exact logMoments_keeps (fun _ _ _ _ => Judged.sound) hs _
  | @displayed childId f d _ hform hchild hd =>
    have htime : (f.time.getD s.clock).Supported := by
      cases htime : f.time with
      | none => exact hclock
      | some time => exact supported_of_form hform htime
    obtain ⟨store', hstore, rfl⟩ :=
      (display_eq_ok htime (nodup_firstOfEach f.cards childId) (day_of_form hform childId)).mp hd
    refine hs.displayed ?_ htime hstore
    intro pair hpair
    obtain ⟨c, hc, rfl⟩ : ∃ c ∈ (firstOfEach f.cards childId).map (·.1), c.pair = pair := by
      rcases Store.mem_merged.mp hpair with hseen | htimed
      · obtain ⟨c, hc, rfl⟩ := List.mem_map.mp hseen
        exact ⟨c, List.map_subset _ (List.filter_subset_self _) hc, rfl⟩
      · obtain ⟨c, hc, rfl⟩ := List.mem_map.mp htimed
        exact ⟨c, List.map_subset _ (List.filter_subset_self _) hc, rfl⟩
    have hown : c.pair.2 = childId := childId_of_mem_firstOfEach hc
    rw [hown]
    exact hchild

/-! ## States -/

/-- The states of a service that starts with empty tables, and whose clock stays among the
supported times. -/
inductive ReachedInTime : Server → Prop
  | fresh (settings : Settings) {clock : Instant} : clock.Supported →
      ReachedInTime { settings, clock }
  | request {s : Server} (q : Request) : ReachedInTime s → ReachedInTime (s.handle q).2
  | clock {s : Server} {time : Instant} : time.Supported → ReachedInTime s →
      ReachedInTime { s with clock := time }

variable {s : Server}

/-- Whatever happened, the tables are sound. -/
theorem ReachedInTime.sound (h : ReachedInTime s) :
    Sound s.tables ∧ s.clock.Supported ∧ s.reachable = true := by
  induction h with
  | fresh settings hclock =>
    exact ⟨⟨.empty, .empty⟩, hclock, rfl⟩
  | @request s q _ ih =>
    obtain ⟨hsound, hclock, hreach⟩ := ih
    obtain ⟨reply, hserved, -⟩ := handle_served s q
    have hsame := sameSetting_handle s q
    exact ⟨hserved.sound hclock hsound, hsame.clock ▸ hclock, hsame.reachable.trans hreach⟩
  | clock hclock _ ih => exact ⟨ih.1, hclock, ih.2.2⟩

end Server

end Service

end MomentInsights
