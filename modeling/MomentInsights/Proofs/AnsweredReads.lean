-- Reads of the states that requests lead to. Their tables fit together, so their stored text
-- can be read, their numbers are moderate, and all that a reply tells is text: every card,
-- report and cooldown that is asked about at a supported time is answered.
import MomentInsights.Proofs.NoOverflow
import MomentInsights.Proofs.WellFormedStates

namespace MomentInsights

open Cooldown (BelongTo Record Store)

-- Sums start at the core library's zero, whatever else is imported.
attribute [local instance (high)] Zero.ofOfNat0

/-! ## What an evaluation reads of sound tables -/

namespace Tables

variable {t : Tables}

theorem natAbs_of_isStorable {n : Int} (h : Service.isStorable n = true) :
    n.natAbs ≤ 2 ^ (63 : Nat) := by
  have hbits := fitsWord_iff.mp h
  omega

theorem length_momentsOf_le (t : Tables) (childId : String) :
    (t.momentsOf childId).length ≤ t.moments.length := by
  unfold momentsOf
  rw [List.length_mergeSort]
  exact List.length_filter_le _ _

theorem points_of_mem_momentsOf (h : t.InBounds) {childId : String} {m : Moment}
    (hm : m ∈ t.momentsOf childId) : m.points.natAbs ≤ 2 ^ (63 : Nat) := by
  have hstored : m ∈ t.moments := List.mem_of_mem_filter (List.mem_mergeSort.mp hm)
  exact natAbs_of_isStorable (h.points m hstored)

theorem moderate_events (h : t.InBounds) (hfew : t.moments.length ≤ mostEvents) (childId : String) :
    Moderate (t.events childId) := by
  constructor
  · unfold events
    rw [List.length_map]
    exact Nat.le_trans (t.length_momentsOf_le childId) hfew
  · intro e he
    obtain ⟨m, hm, rfl⟩ := List.mem_map.mp he
    exact points_of_mem_momentsOf h hm

/-- The points that a reward earned, or was frozen at. -/
theorem natAbs_earned_le (h : t.InBounds) (hfew : t.moments.length ≤ mostEvents) {r : Reward}
    (hr : r ∈ t.rewards) (childId : String) (active : Bool) (now : Instant) :
    (r.earned (t.momentsOf childId) active now).natAbs ≤ mostPoints := by
  have hsum : (((t.momentsOf childId).filter (r.counts active now)).map Moment.points).sum.natAbs ≤
      mostPoints := by
    apply natAbs_sum_le_mostPoints
    · rw [List.length_map]
      have hlength := Nat.le_trans (List.length_filter_le (r.counts active now) _)
        (t.length_momentsOf_le childId)
      exact Nat.le_trans hlength hfew
    · intro n hn
      obtain ⟨m, hm, rfl⟩ := List.mem_map.mp hn
      exact points_of_mem_momentsOf h (List.mem_of_mem_filter hm)
  have hfrozen : (r.frozenPoints.getD 0).natAbs ≤ mostPoints :=
    Nat.le_trans (natAbs_of_isStorable (h.frozen r hr)) (by decide +kernel)
  unfold Reward.earned
  dsimp only
  split
  · cases hpoints : r.frozenPoints with
    | none => exact hsum
    | some n =>
      rw [hpoints] at hfrozen
      exact hfrozen
  · exact hsum

theorem moderate_goals (h : t.InBounds) (hfew : t.moments.length ≤ mostEvents) (now : Instant)
    (childId : String) : ∀ g ∈ t.goals now childId, g.Moderate := by
  intro g hg
  unfold goals at hg
  split at hg
  · cases hg
  · obtain ⟨r, hr, rfl⟩ := List.mem_map.mp hg
    have hstored : r ∈ t.rewards := List.mem_of_mem_filter (List.mem_mergeSort.mp hr)
    exact Goal.moderate_of_earned (h.targets r hstored)
      (natAbs_earned_le h hfew hstored childId _ now)

end Tables

namespace Service

/-! ## What can be sent -/

theorem membersEncodable_iff {ms : List (String × Json)} :
    Json.membersEncodable ms = true ↔ ∀ m ∈ ms, m.2.isEncodable = true := by
  induction ms with
  | nil => simp
  | cons m ms ih => simp [ih]

theorem allEncodable_map {α : Type} {f : α → Json} {xs : List α}
    (h : ∀ x ∈ xs, (f x).isEncodable = true) : Json.allEncodable (xs.map f) = true := by
  rw [Json.allEncodable_iff]
  intro j hj
  obtain ⟨x, hx, rfl⟩ := List.mem_map.mp hj
  exact h x hx

theorem isEncodable_history (f : HistoryFilter) : (historyJson f).isEncodable = true := by
  simp [historyJson]

theorem isEncodable_action (a : Action) : (actionJson a).isEncodable = true := by
  have hfilter := Json.isEncodable_ofOption isEncodable_history a.filter?
  simp [actionJson, hfilter]

theorem isEncodable_localized (l : Localized) : (localizedJson l).isEncodable = true := by
  have hargs : Json.membersEncodable (l.args.map fun a => (a.1, .str a.2)) = true := by
    rw [membersEncodable_iff]
    intro m hm
    obtain ⟨a, -, rfl⟩ := List.mem_map.mp hm
    rfl
  simp [localizedJson, isEncodable_strings, hargs]

theorem isEncodable_card (c : Card) : (cardJson c).isEncodable = true := by
  have hlocalized := Json.isEncodable_ofOption isEncodable_localized c.localized
  simp [cardJson, Json.whole, instantJson, isEncodable_strings, isEncodable_action, hlocalized]

theorem isEncodable_details (d : SignalDetails) : (detailsJson d).isEncodable = true := by
  unfold detailsJson
  dsimp only
  rw [Json.isEncodable, membersEncodable_iff]
  intro m hm
  obtain ⟨⟨name, value⟩, hmember, hm⟩ := List.mem_filterMap.mp hm
  obtain ⟨j, rfl, rfl⟩ := Option.map_eq_some_iff.mp hm
  -- each member is a text or a number
  simp only [List.mem_cons, List.not_mem_nil, or_false, Prod.mk.injEq] at hmember
  rcases hmember with ⟨-, h⟩ | ⟨-, h⟩ | ⟨-, h⟩ | ⟨-, h⟩ | ⟨-, h⟩ | ⟨-, h⟩ | ⟨-, h⟩ | ⟨-, h⟩ <;>
    obtain ⟨a, -, rfl⟩ := Option.map_eq_some_iff.mp h.symm <;> rfl

theorem isEncodable_signal (s : Signal) : (signalJson s).isEncodable = true := by
  simp [signalJson, Json.whole, Json.nat, isEncodable_strings, isEncodable_details]

theorem isEncodable_dropped (d : Dropped) : (droppedJson d).isEncodable = true := by
  simp [droppedJson, isEncodable_card]

theorem isEncodable_cooldown {known : String → Option Child} {rs : List Record}
    (h : BelongTo known rs) {now : Instant} {a : Cooldown.Active}
    (ha : a ∈ Store.activeOf .standard rs now) : (cooldownJson a).isEncodable = true := by
  obtain ⟨r, hr, rfl⟩ := List.mem_map.mp (List.mem_of_mem_filter (List.mem_mergeSort.mp ha))
  obtain ⟨templateId, childId, hpair, -⟩ := h.rows r hr
  rw [hpair]
  simp [cooldownJson, Record.ofPair, isEncodable_text, WideText.string?_ofString, instantJson]

/-- A report can be sent if the cooldowns that it tells of can. -/
theorem isEncodable_report {r : Report}
    (h : ∀ a ∈ r.cooldowns, (cooldownJson a).isEncodable = true) :
    (reportJson r).isEncodable = true := by
  have hstage (t : StageTrace) : (traceJson t).isEncodable = true := by
    simp [traceJson, Json.nat, Json.whole]
  have hstats : (statsJson r.stats).isEncodable = true := by
    simp [statsJson, Json.nat, Json.whole]
  have hstages := allEncodable_map fun t (_ : t ∈ r.stages) => hstage t
  have hsignals := allEncodable_map fun s (_ : s ∈ r.signals) => isEncodable_signal s
  have hbuilt := allEncodable_map fun c (_ : c ∈ r.built) => isEncodable_card c
  have hdropped := allEncodable_map fun d (_ : d ∈ r.dropped) => isEncodable_dropped d
  have hselected := allEncodable_map fun c (_ : c ∈ r.selected) => isEncodable_card c
  simp [reportJson, instantJson, hstages, hstats, hsignals, hbuilt, hdropped, hselected,
    allEncodable_map h]

/-! ## Reads of sound tables -/

/-- The request asks about the present, or names a supported time. -/
def Request.AsksInTime (q : Request) : Prop :=
  ∀ text, q.query.lookup "now" = some text →
    ∃ t u, Field.timeOfText text = .ok t ∧ t.utc = .ok u ∧ u.Supported

/-- A read of the store finds the records. -/
theorem Sound.records {s : Server} (h : Sound s.tables) :
    ∃ rs store', s.store.records = .ok (rs, store') ∧ BelongTo s.tables.child? rs := by
  obtain ⟨rs, hdecode, hrs⟩ := h.1.decode s.settings.room
  exact ⟨rs, _, store_records hdecode, hrs⟩

/-- There is a report of every child, known or not, and it can be sent. -/
theorem Sound.run {s : Server} (h : Sound s.tables) (hfew : s.tables.moments.length ≤ mostEvents)
    (childId : String) (now : Instant) :
    ∃ r store', Engine.run (s.tables.source now) s.store childId now = .ok (r, store') ∧
      (reportJson r).isEncodable = true := by
  obtain ⟨rs, read, hrecords, hrs⟩ := h.records
  obtain ⟨⟨r, store'⟩, hrun⟩ := @Engine.run_total (s.tables.source now) _ _ _ childId hrecords
    (Tables.moderate_events h.2 hfew childId) (Tables.moderate_goals h.2 hfew now childId) now
  refine ⟨r, store', hrun, isEncodable_report ?_⟩
  intro a ha
  exact isEncodable_cooldown hrs (Engine.run_cooldowns hrecords hrun ha)

namespace Server

variable {s : Server} {q : Request} {childId : String}

theorem evaluationTime_total (s : Server) (hq : q.AsksInTime) :
    ∃ now, s.evaluationTime q.query = .ok now := by
  unfold evaluationTime
  cases hnow : q.query.lookup "now" with
  | none => exact ⟨s.clock, rfl⟩
  | some text =>
    obtain ⟨t, u, htext, hutc, hsupported⟩ := hq text hnow
    have htime : t.supported = .ok u := by
      unfold Timestamp.supported
      rw [hutc]
      exact if_pos hsupported
    dsimp only
    rw [htext]
    dsimp only
    rw [htime]
    exact ⟨u, rfl⟩

/-- What is answered at every time is the reply. -/
theorem evaluate_answered (hreach : s.reachable = true) (hq : q.AsksInTime)
    {answer : Instant → Except Failure Reply}
    (h : ∀ now, ∃ reply, answer now = .ok reply ∧ reply.encoded.status = 200) :
    (s.evaluate q.query answer).encoded.status = 200 := by
  obtain ⟨now, hnow⟩ := evaluationTime_total s hq
  obtain ⟨reply, hreply, hstatus⟩ := h now
  unfold evaluate
  rw [hnow]
  dsimp only
  rw [hreach, Bool.not_true, if_neg Bool.false_ne_true, hreply]
  exact hstatus

theorem cooldowns_answered (h : Sound s.tables) (now : Instant) :
    ∃ reply, s.cooldowns now = .ok reply ∧ reply.encoded.status = 200 := by
  obtain ⟨rs, read, hrecords, hrs⟩ := h.records
  have hactive := allEncodable_map fun a (ha : a ∈ Store.activeOf .standard rs now) =>
    isEncodable_cooldown hrs ha
  refine ⟨_, Outcome.bind_eq_ok.mpr ⟨_, Store.active_of_records hrecords now, rfl⟩, ?_⟩
  rw [encoded_json]
  · rfl
  · simp only [Json.isEncodable, Json.membersEncodable, instantJson, Bool.true_and, Bool.and_true]
    exact hactive

theorem cards_answered (h : Sound s.tables) (hfew : s.tables.moments.length ≤ mostEvents)
    (childId : String) (now : Instant) :
    ∃ reply, s.cards childId now = .ok reply ∧ reply.encoded.status = 200 := by
  obtain ⟨r, store', hrun, -⟩ := h.run hfew childId now
  have hselected := allEncodable_map fun c (_ : c ∈ r.selected) => isEncodable_card c
  have hgenerate : Engine.generate (s.tables.source now) s.store childId now =
      .ok (r.selected, store') := Outcome.bind_eq_ok.mpr ⟨_, hrun, rfl⟩
  refine ⟨_, Outcome.bind_eq_ok.mpr ⟨_, hgenerate, rfl⟩, ?_⟩
  rw [encoded_json]
  · rfl
  · simp [instantJson, Json.nat, Json.whole, hselected]

theorem report_answered (h : Sound s.tables) (hfew : s.tables.moments.length ≤ mostEvents)
    (childId : String) (now : Instant) :
    ∃ r, s.report childId now = .ok r ∧ (reportJson r).isEncodable = true := by
  obtain ⟨r, store', hrun, hencodable⟩ := h.run hfew childId now
  exact ⟨r, Outcome.bind_eq_ok.mpr ⟨_, hrun, rfl⟩, hencodable⟩

theorem evaluation_answered (h : Sound s.tables) (hreach : s.reachable = true)
    (hfew : s.tables.moments.length ≤ mostEvents) (hq : q.AsksInTime) {route : Route}
    (hroute : route ∈ [Route.cards childId, .debug childId, .debugText childId]) :
    (s.serve q route).1.encoded.status = 200 := by
  simp only [List.mem_cons, List.not_mem_nil, or_false] at hroute
  rcases hroute with rfl | rfl | rfl
  · exact evaluate_answered hreach hq (cards_answered h hfew childId)
  · refine evaluate_answered hreach hq fun now => ?_
    obtain ⟨r, hr, hencodable⟩ := report_answered h hfew childId now
    refine ⟨.json 200 (reportJson r), by rw [hr]; rfl, ?_⟩
    rw [encoded_json hencodable]
    rfl
  · refine evaluate_answered hreach hq fun now => ?_
    obtain ⟨r, hr, hencodable⟩ := report_answered h hfew childId now
    refine ⟨reportText r, by rw [hr]; rfl, ?_⟩
    unfold reportText
    rw [if_pos hencodable]
    rfl

/-- Whatever requests came before, the tables fit together, and reads about the present or
about a supported time are answered. Cards and reports divide sums of points, which are in
range for up to 2 ^ 900 moments. Rows have keys of 64 bits, so no table holds as many. -/
theorem reached_states_answer_reads (h : ReachedInTime s) :
    s.tables.WellFormed ∧ ∀ q : Request, q.AsksInTime →
      (q.GoesTo .cooldowns → (s.handle q).1.status = 200) ∧
      (s.tables.moments.length ≤ mostEvents →
        ∀ childId, ∀ route ∈ [Route.cards childId, .debug childId, .debugText childId],
          q.GoesTo route → (s.handle q).1.status = 200) := by
  obtain ⟨hsound, -, hreach⟩ := h.sound
  refine ⟨hsound.1, ?_⟩
  intro q hq
  constructor
  · intro hgoes
    rw [handle_of_goesTo hgoes]
    exact evaluate_answered hreach hq (cooldowns_answered hsound)
  · intro hfew childId route hroute hgoes
    rw [handle_of_goesTo hgoes]
    exact evaluation_answered hsound hreach hfew hq hroute

/-! ## A child with a reward -/

/-- A reward that becomes the child's active one. -/
def bikeReward : Request where
  method := "POST"
  path := "/records/rewards"
  query := []
  payload := .value <| .obj [("child_id", .str "c1"), ("name", .str "Bike"),
    ("target_points", .whole 10), ("make_active", .bool true)]

def firstMoment : Request where
  method := "POST"
  path := "/records/moments/batch"
  query := []
  payload := .value <| .obj [("items", .arr [
    .obj [("child_id", .str "c1"), ("behavior_type_id", .str "b1"),
      ("timestamp", .str "1970-01-01T12:00:00Z"), ("points_applied", .whole 1)]])]

/-- A child with an active reward, a moment and a card that was displayed. -/
def rewardedChild : Server :=
  let s : Server := { clock := .epoch }
  let s := (s.handle (newChild "c1")).2
  let s := (s.handle bikeReward).2
  let s := (s.handle firstMoment).2
  (s.handle (stalledShown "c1" "1970-01-02T00:00:00Z")).2

theorem reachedInTime_rewardedChild : ReachedInTime rewardedChild := by
  unfold rewardedChild
  exact .request _ (.request _ (.request _ (.request _ (.fresh {} (by decide)))))

def secondNoon : Request where
  method := "GET"
  path := "/insights/c1/debug"
  query := [("now", "1970-01-02T12:00:00Z")]
  payload := .absent

theorem secondNoon_inTime : secondNoon.AsksInTime := by
  intro text htext
  cases htext
  have htime : (Field.timeOfText "1970-01-02T12:00:00Z").toOption.any fun t =>
      t.utc.toOption.any fun u => decide u.Supported := by
    decide +kernel
  obtain ⟨t, ht, hutc⟩ := (Option.any_eq_true _ _).mp htime
  obtain ⟨u, hu, hsupported⟩ := (Option.any_eq_true _ _).mp hutc
  refine ⟨t, u, ?_, ?_, of_decide_eq_true hsupported⟩
  · cases hread : Field.timeOfText "1970-01-02T12:00:00Z" <;> rw [hread] at ht <;> cases ht
    rfl
  · cases hread : t.utc <;> rw [hread] at hu <;> cases hu
    rfl

theorem reached_states_answer_reads_rewardedChild :
    rewardedChild.tables.WellFormed ∧
      rewardedChild.tables.children.map (·.activeGoalId) = [some "gen-1"] ∧
      rewardedChild.tables.cooldowns.isSome ∧
      (rewardedChild.handle secondNoon).1.status = 200 := by
  obtain ⟨hfit, hreads⟩ := reached_states_answer_reads reachedInTime_rewardedChild
  have hone : rewardedChild.tables.moments.length = 1 := by decide +kernel
  refine ⟨hfit, by decide +kernel, by decide +kernel, ?_⟩
  exact (hreads secondNoon secondNoon_inTime).2 (by rw [hone]; decide +kernel) "c1" (.debug "c1")
    (by simp) (by decide +kernel)

end Server

end Service

end MomentInsights
