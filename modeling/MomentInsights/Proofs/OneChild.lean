-- What is told about a child comes from what is stored about that child and from the
-- behaviors. Two databases that agree there give the same cards and the same report, whatever
-- else they hold, and although the displays of all children share one text.
import MomentInsights.Proofs.CooldownMap
import MomentInsights.Proofs.Evaluation
import MomentInsights.Proofs.ServedRequests

namespace MomentInsights

/-! ## The records of a child -/

namespace Cooldown

variable {rs rs' : List Record}

/-- The record is one of the child. -/
def Record.isOf (childId : String) (r : Record) : Bool := r.childId == .ofString childId

namespace Store

theorem find?_own (rs : List Record) (templateId childId : String) :
    find? (rs.filter (Record.isOf childId)) templateId childId = find? rs templateId childId := by
  unfold find?
  rw [List.find?_filter]
  congr 1
  funext r
  unfold Record.isOf Record.isFor
  simp only [Bool.decide_and, Bool.decide_eq_true]
  cases r.childId == WideText.ofString childId <;> simp only [Bool.and_true,
    Bool.true_and, Bool.and_false]

theorem activeOf_own (p : Periods) (rs : List Record) (now : Instant) (childId : String) :
    (activeOf p rs now).filter (fun a => a.childId == .ofString childId) =
      activeOf p (rs.filter (Record.isOf childId)) now := by
  have hsort (rests : List Active) : (rests.mergeSort Active.le).filter
      (fun a => a.childId == .ofString childId) =
        (rests.filter fun a => a.childId == .ofString childId).mergeSort Active.le :=
    Order.filter_sort Active.order rests _
  unfold activeOf
  dsimp only
  rw [hsort, List.filter_filter, List.filter_map, List.filter_map, List.filter_filter]
  congr 3
  funext r
  exact Bool.and_comm _ _

/-- By records that agree on a child, what rests for the child rests alike. -/
theorem find?_agree {childId : String}
    (h : rs'.filter (Record.isOf childId) = rs.filter (Record.isOf childId))
    (templateId : String) : find? rs' templateId childId = find? rs templateId childId := by
  rw [← find?_own rs', h, find?_own]

end Store

end Cooldown

/-! ## Evaluations -/

/-- The sources know the same about the child, and the same behaviors. -/
structure Source.AgreeOn (childId : String) (src src' : Source) : Prop where
  child : src'.child childId = src.child childId
  events : src'.events childId = src.events childId
  goals : src'.goals childId = src.goals childId
  routines : src'.routines = src.routines

namespace Engine

open Cooldown (Store Record)

variable {src src' : Source} {store store' cached cached' : Store} {rs rs' : List Record}
  {childId : String} {child : Child}

/-- Cards of one child are dropped for their cooldown alike. -/
theorem withoutCooldown_agree (hcached : store.records = .ok (rs, store))
    (hcached' : store'.records = .ok (rs', store')) (hperiods : store'.periods = store.periods)
    (h : rs'.filter (Record.isOf childId) = rs.filter (Record.isOf childId)) (now : Instant)
    {cards : List Card} (hcards : ∀ c ∈ cards, c.childId = childId) :
    (Ranking.withoutCooldown (Timestamp.ofInstant now) cards store').map
        (fun found => (found.1, found.2.1)) =
      (Ranking.withoutCooldown (Timestamp.ofInstant now) cards store).map
        fun found => (found.1, found.2.1) := by
  have hrest : ∀ c ∈ cards, Store.resting store'.periods rs' now c.shownPair =
      Store.resting store.periods rs now c.shownPair := by
    intro c hc
    have hpair : c.shownPair.2 = childId := hcards c hc
    unfold Store.resting
    rw [hperiods, hpair, Store.find?_agree h]
  have hkept : (cards.filter fun c => !Store.resting store'.periods rs' now c.shownPair) =
      cards.filter fun c => !Store.resting store.periods rs now c.shownPair := by
    apply List.filter_congr
    intro c hc
    rw [hrest c hc]
  have hdropped : ((cards.filter fun c => Store.resting store'.periods rs' now c.shownPair).map
        fun c => Ranking.cooldownDrop c
          ((Store.find? rs' c.templateId c.childId).map store'.periods.endOf)) =
      (cards.filter fun c => Store.resting store.periods rs now c.shownPair).map
        fun c => Ranking.cooldownDrop c
          ((Store.find? rs c.templateId c.childId).map store.periods.endOf) := by
    rw [List.filter_congr hrest]
    apply List.map_congr_left
    intro c hc
    rw [hperiods, hcards c (List.mem_of_mem_filter hc), Store.find?_agree h]
  rw [Ranking.withoutCooldown_cached hcached, Ranking.withoutCooldown_cached hcached']
  simp only [Except.map, hkept, hdropped]

/-- All built cards are the child's, so the records of the others are never looked up. -/
theorem select_agree (hcached : store.records = .ok (rs, store))
    (hcached' : store'.records = .ok (rs', store')) (hperiods : store'.periods = store.periods)
    (h : rs'.filter (Record.isOf child.id) = rs.filter (Record.isOf child.id)) {t : Timeline}
    {r : Report} (hdetected : ∀ s ∈ r.signals, Detects t s) :
    (select child t store' r).map Prod.fst = (select child t store r).map Prod.fst := by
  unfold select
  dsimp only
  apply Outcome.map_bind_congr_of_ok (n := id) rfl
  rintro built built' - hbuilt rfl
  have hcards : ∀ c ∈ (Ranking.safetyRails (Evidence.valid t.eventIds built)).1,
      c.childId = child.id := by
    intro c hc
    have hsorted := (Ranking.safetyRails_sublist _).subset hc
    have hbuilt' : c ∈ built := List.mem_of_mem_filter (List.mem_mergeSort.mp hsorted)
    obtain ⟨-, -, -, -, hchild⟩ :=
      exists_signal_of_built (detects_of_triggered hdetected) hbuilt hbuilt'
    exact hchild
  apply Outcome.map_bind_congr (withoutCooldown_agree hcached hcached' hperiods h t.now hcards)
  rintro ⟨kept, dropped, left⟩ ⟨kept', dropped', left'⟩ heq
  cases heq
  rfl

theorem survey_agree (hrecords : store.records = .ok (rs, cached))
    (hrecords' : store'.records = .ok (rs', cached')) (hperiods : store'.periods = store.periods)
    (hown : rs'.filter (Record.isOf childId) = rs.filter (Record.isOf childId)) (child : Child)
    (now : Instant) :
    (survey src store' childId child now).map Prod.fst =
      (survey src store childId child now).map Prod.fst := by
  unfold survey
  apply Outcome.map_bind_congr (n := id) rfl
  rintro signals - rfl
  rw [Store.active_of_records hrecords, Store.active_of_records hrecords', Outcome.ok_bind,
    Outcome.ok_bind]
  apply Outcome.map_bind_congr (n := id) rfl
  rintro stats - rfl
  simp only [Store.activeOf_own, hown, hperiods]
  rfl

/-- By stores that agree on the child, the reports agree. -/
theorem run_agree (hid : ∀ c, src.child childId = some c → c.id = childId)
    (hrecords : store.records = .ok (rs, cached)) (hrecords' : store'.records = .ok (rs', cached'))
    (hperiods : store'.periods = store.periods)
    (hown : rs'.filter (Record.isOf childId) = rs.filter (Record.isOf childId)) (now : Instant) :
    (run src store' childId now).map Prod.fst = (run src store childId now).map Prod.fst := by
  cases hchild : src.child childId with
  | none =>
    unfold run
    rw [hchild]
    rfl
  | some child =>
    obtain rfl := hid child hchild
    rw [run_of_child hchild, run_of_child hchild]
    apply Outcome.map_bind_congr_of_ok
      (survey_agree hrecords hrecords' hperiods hown child now)
    rintro ⟨r, left'⟩ ⟨_, left⟩ hsurvey' hsurvey rfl
    obtain ⟨hall, ⟨found, hfound⟩, -, -⟩ := survey_ok hsurvey
    obtain ⟨-, ⟨found', hfound'⟩, -, -⟩ := survey_ok hsurvey'
    rw [hrecords] at hfound
    rw [hrecords'] at hfound'
    cases hfound
    cases hfound'
    obtain ⟨hagain, hkept⟩ := Store.records_again hrecords
    obtain ⟨hagain', hkept'⟩ := Store.records_again hrecords'
    by_cases hfew : (Timeline.ofEvents (src.events child.id) now).fortnight.length < minEvents
    · rw [finish_few hfew, finish_few hfew]
      rfl
    · rw [finish_enough (Nat.not_lt.mp hfew), finish_enough (Nat.not_lt.mp hfew)]
      have hsame : cached'.periods = cached.periods := by rw [hkept', hperiods, hkept]
      exact select_agree hagain hagain' hsame hown (detects_of_all hall)

/-- An evaluation asks its source about the child and the behaviors only. -/
theorem run_source (h : src.AgreeOn childId src') (store : Store) (now : Instant) :
    run src' store childId now = run src store childId now := by
  unfold run
  rw [h.child, h.events, h.goals, h.routines]

end Engine

/-! ## The tables -/

/-- Order by time, then by id. -/
def Moment.order (a b : Moment) : Ordering :=
  (compare a.time.micros b.time.micros).then (compare a.id b.id)

instance : Std.TransCmp Moment.order :=
  inferInstanceAs (Std.TransCmp (compareLex (compareOn fun m : Moment => m.time.micros)
    (compareOn Moment.id)))

/-- Order by creation, then by id. -/
def Reward.order (a b : Reward) : Ordering :=
  (compare a.created.micros b.created.micros).then (compare a.id b.id)

instance : Std.TransCmp Reward.order :=
  inferInstanceAs (Std.TransCmp (compareLex (compareOn fun r : Reward => r.created.micros)
    (compareOn Reward.id)))

namespace Tables

/-- No id stands twice in a table that insights are read from. -/
structure Keyed (t : Tables) : Prop where
  behaviors : (t.behaviors.map (·.id)).Nodup
  rewards : (t.rewards.map (·.id)).Nodup
  moments : (t.moments.map (·.id)).Nodup

/-- The tables hold the same row, the same moments and the same rewards of the child, and
the same behaviors, whatever the order of the rows. -/
structure AgreeOn (childId : String) (t t' : Tables) : Prop where
  child : t'.child? childId = t.child? childId
  moments : (t'.moments.filter (·.childId == childId)).Perm
    (t.moments.filter (·.childId == childId))
  rewards : (t'.rewards.filter (·.childId == childId)).Perm
    (t.rewards.filter (·.childId == childId))
  behaviors : t'.behaviors.Perm t.behaviors

variable {t t' : Tables} {childId : String}

theorem momentsOf_agree (h : t.AgreeOn childId t') (hkeyed : t.Keyed) :
    t'.momentsOf childId = t.momentsOf childId :=
  Order.sort_rows Moment.order h.moments
    (hkeyed.moments.sublist (List.filter_sublist.map _))
    fun _ _ hab => Std.LawfulEqOrd.eq_of_compare (Ordering.then_eq_eq.mp hab).2

theorem behavior?_agree (h : t.AgreeOn childId t') (hkeyed : t.Keyed) (id : String) :
    t'.behavior? id = t.behavior? id :=
  Order.find?_row h.behaviors hkeyed.behaviors id

theorem goals_agree (h : t.AgreeOn childId t') (hkeyed : t.Keyed) (now : Instant) :
    t'.goals now childId = t.goals now childId := by
  have hrewards : (t'.rewards.filter (·.childId == childId)).mergeSort Reward.le =
      (t.rewards.filter (·.childId == childId)).mergeSort Reward.le :=
    Order.sort_rows Reward.order h.rewards
      (hkeyed.rewards.sublist (List.filter_sublist.map _))
      fun _ _ hab => Std.LawfulEqOrd.eq_of_compare (Ordering.then_eq_eq.mp hab).2
  unfold goals
  rw [h.child, hrewards, momentsOf_agree h hkeyed]

/-- What insights are computed from is the same for the child. -/
theorem source_agree (h : t.AgreeOn childId t') (hkeyed : t.Keyed) (now : Instant) :
    (t.source now).AgreeOn childId (t'.source now) where
  child := h.child
  events := by
    unfold source events
    dsimp only
    rw [momentsOf_agree h hkeyed]
    apply List.map_congr_left
    intro m _
    rw [behavior?_agree h hkeyed]
  goals := goals_agree h hkeyed now
  routines :=
    Order.sort_rows (compareOn Behavior.id) (h.behaviors.filter _)
      (hkeyed.behaviors.sublist (List.filter_sublist.map _))
      fun _ _ hab => Std.LawfulEqOrd.eq_of_compare hab

end Tables

/-! ## The replies -/

namespace Service.Server

variable {s s' : Server} {q : Request} {childId : String}

theorem evaluate_congr (htime : s'.evaluationTime q.query = s.evaluationTime q.query)
    (hreach : s'.reachable = s.reachable) {answer answer' : Instant → Except Failure Reply}
    (h : ∀ now, answer' now = answer now) : s'.evaluate q.query answer' = s.evaluate q.query answer := by
  unfold evaluate
  simp only [htime, hreach, h]

/-- Cards and reports say what the evaluation reports, and nothing else. -/
theorem serve_agree (htime : s'.evaluationTime q.query = s.evaluationTime q.query)
    (hreach : s'.reachable = s.reachable)
    (hrun : ∀ now, (Engine.run (s'.tables.source now) s'.store childId now).map Prod.fst =
      (Engine.run (s.tables.source now) s.store childId now).map Prod.fst)
    {route : Route} (hroute : route ∈ [Route.cards childId, .debug childId, .debugText childId]) :
    (s'.serve q route).1 = (s.serve q route).1 := by
  have hsame : ∀ now, s'.cards childId now = s.cards childId now ∧
      s'.report childId now = s.report childId now := by
    intro now
    have h := hrun now
    unfold cards report Engine.generate
    rcases hs : Engine.run (s.tables.source now) s.store childId now with f | ⟨r, left⟩ <;>
      rcases hs' : Engine.run (s'.tables.source now) s'.store childId now
        with f' | ⟨r', left'⟩ <;>
        rw [hs, hs'] at h <;> cases h <;> exact ⟨rfl, rfl⟩
  simp only [List.mem_cons, List.not_mem_nil, or_false] at hroute
  rcases hroute with rfl | rfl | rfl
  · exact evaluate_congr htime hreach fun now => (hsame now).1
  · exact evaluate_congr htime hreach fun now => by rw [(hsame now).2]
  · exact evaluate_congr htime hreach fun now => by rw [(hsame now).2]

/-- Of two databases that hold the same about a child and the same behaviors, and whose
cooldown texts can be read and have the same records of the child, requests for the cards
of the child and for its report get the same reply, at every time. -/
theorem child_seen_alone {t : Tables} {rs rs' : List Cooldown.Record} (hkeyed : s.tables.Keyed)
    (hagree : s.tables.AgreeOn childId t)
    (hdecode : Cooldown.decode .standard s.settings.room s.tables.cooldowns = .ok rs)
    (hdecode' : Cooldown.decode .standard s.settings.room t.cooldowns = .ok rs')
    (hrecords : rs'.filter (·.isOf childId) = rs.filter (·.isOf childId)) {route : Route}
    (hroute : route ∈ [Route.cards childId, .debug childId, .debugText childId])
    (hq : q.GoesTo route) :
    (({ s with tables := t } : Server).handle q).1 = (s.handle q).1 := by
  let s' : Server := { s with tables := t }
  have hstored : s.store.records = .ok (rs, { s.store with cache := some rs }) :=
    Outcome.bind_eq_ok.mpr ⟨rs, hdecode, rfl⟩
  have hstored' : s'.store.records = .ok (rs', { s'.store with cache := some rs' }) :=
    Outcome.bind_eq_ok.mpr ⟨rs', hdecode', rfl⟩
  have hid : ∀ c, s.tables.child? childId = some c → c.id = childId := by
    intro c hc
    unfold Tables.child? at hc
    simpa using List.find?_some hc
  have hrun (now : Instant) : (Engine.run (t.source now) s'.store childId now).map Prod.fst =
      (Engine.run (s.tables.source now) s.store childId now).map Prod.fst := by
    rw [Engine.run_source (Tables.source_agree hagree hkeyed now)]
    exact Engine.run_agree hid hstored hstored' rfl hrecords now
  have htime : s'.evaluationTime q.query = s.evaluationTime q.query := rfl
  rw [handle_of_goesTo hq, handle_of_goesTo hq, serve_agree htime rfl hrun hroute]

/-- A moment of the child at the start of 1970. -/
def firstMomentOf (id childId : String) : Moment :=
  ⟨id, childId, "b1", Instant.epoch, 1, none, none, none⟩

/-- One child with a moment and a display. -/
def alone : Tables where
  children := [oldChild]
  moments := [firstMomentOf "m2" "c1"]
  cooldowns := some (Cooldown.encode [.ofPair ("goal_stalled", "c1") Instant.epoch])

/-- The same child beside another one. -/
def inCompany : Tables where
  children := [{ oldChild with id := "c2" }, oldChild]
  moments := [firstMomentOf "m1" "c2", firstMomentOf "m2" "c1"]
  cooldowns := some (Cooldown.encode [.ofPair ("goal_stalled", "c2") Instant.epoch,
    .ofPair ("goal_stalled", "c1") Instant.epoch])

def firstReport : Request where
  method := "GET"
  path := "/insights/c1/debug"
  query := []
  payload := .absent

theorem child_seen_alone_inCompany :
    alone.moments ≠ inCompany.moments ∧ alone.cooldowns ≠ inCompany.cooldowns ∧
      (({ clock := Instant.epoch, tables := inCompany } : Server).handle firstReport).1 =
        (({ clock := Instant.epoch, tables := alone } : Server).handle firstReport).1 := by
  have hkeyed : alone.Keyed := ⟨by decide, by decide, by decide⟩
  have hagree : alone.AgreeOn "c1" inCompany :=
    ⟨by decide, by decide, by decide, .refl _⟩
  have hback (pair : String × String) :
      Cooldown.Periods.standard.ReadsBack (.ofPair pair Instant.epoch) :=
    Cooldown.readsBack_ofPair (by decide) pair
  have hread : Cooldown.decode .standard .standard alone.cooldowns =
      .ok [.ofPair ("goal_stalled", "c1") Instant.epoch] :=
    Cooldown.decode_encode (by simp [hback]) .standard
  have hread' : Cooldown.decode .standard .standard inCompany.cooldowns =
      .ok [.ofPair ("goal_stalled", "c2") Instant.epoch,
        .ofPair ("goal_stalled", "c1") Instant.epoch] :=
    Cooldown.decode_encode (by simp [hback]) .standard
  refine ⟨by decide, by decide +kernel, ?_⟩
  exact child_seen_alone (s := { clock := Instant.epoch, tables := alone }) hkeyed hagree hread hread'
    (by decide) (List.mem_cons_of_mem _ List.mem_cons_self) (by decide +kernel)

end Service.Server

end MomentInsights
