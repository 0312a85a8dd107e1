-- One evaluation, taken apart: the store is read once and then only from its
-- cache, every triggered signal has its card, and the cut at the end drops
-- nothing. An evaluation fails only where the signals, the stored records or the
-- sizes of the data fail.
import MomentInsights.Engine
import MomentInsights.Proofs.Hits
import MomentInsights.Proofs.Rails

namespace MomentInsights

/-! ## Reads of a filled cache -/

namespace Cooldown.Store

variable {s s' : Store} {rs : List Record}

/-- By the records, the template rests for the child. -/
def resting (p : Periods) (rs : List Record) (now : Instant) (pair : String × String) : Bool :=
  ((find? rs pair.1 pair.2).map p.endOf).any (now < ·)

theorem records_again (h : s.records = .ok (rs, s')) :
    s'.records = .ok (rs, s') ∧ s'.periods = s.periods := by
  unfold records at h
  cases hcache : s.cache with
  | some held =>
    rw [hcache] at h
    cases h
    refine ⟨?_, rfl⟩
    unfold records
    rw [hcache]
  | none =>
    rw [hcache] at h
    obtain ⟨found, -, h⟩ := Outcome.bind_eq_ok.mp h
    cases h
    exact ⟨rfl, rfl⟩

theorem cooldownEnd_of_records (h : s.records = .ok (rs, s')) (templateId childId : String) :
    s.cooldownEnd templateId childId =
      .ok ((find? rs templateId childId).map s.periods.endOf, s') := by
  unfold cooldownEnd
  rw [h, ← (records_again h).2]
  rfl

theorem isOnCooldown_of_records (h : s.records = .ok (rs, s')) (pair : String × String)
    (now : Instant) :
    s.isOnCooldown pair.1 pair.2 (Timestamp.ofInstant now) =
      (.ok (resting s.periods rs now pair), s') := by
  unfold isOnCooldown resting
  rw [cooldownEnd_of_records h]
  cases (find? rs pair.1 pair.2).map s.periods.endOf with
  | none => rfl
  | some ends =>
    rw [Timestamp.utc_ofInstant]
    rfl

theorem active_of_records (h : s.records = .ok (rs, s')) (now : Instant) :
    s.active now = .ok (activeOf s.periods rs now, s') := by
  unfold active
  rw [h, ← (records_again h).2]
  rfl

end Cooldown.Store

namespace Ranking

open Cooldown (Store Record)

/-- The cooldown filter, with a filled cache. -/
theorem withoutCooldown_cached {s : Store} {rs : List Record} (h : s.records = .ok (rs, s))
    (now : Instant) (cards : List Card) :
    withoutCooldown (Timestamp.ofInstant now) cards s =
      .ok (cards.filter fun c => !Store.resting s.periods rs now c.shownPair,
        (cards.filter fun c => Store.resting s.periods rs now c.shownPair).map fun c =>
          cooldownDrop c ((Store.find? rs c.templateId c.childId).map s.periods.endOf),
        s) := by
  induction cards with
  | nil => rfl
  | cons c cs ih =>
    have hcooldown : s.isOnCooldown c.templateId c.childId (Timestamp.ofInstant now) =
        (.ok (Store.resting s.periods rs now c.shownPair), s) :=
      Store.isOnCooldown_of_records h c.shownPair now
    unfold withoutCooldown
    rw [hcooldown]
    cases hrest : Store.resting s.periods rs now c.shownPair with
    | false => simp [ih, hrest]
    | true => simp [ih, hrest, Store.cooldownEnd_of_records h]

end Ranking

/-! ## The stages together -/

namespace Engine

open Cooldown (Store Record Periods)

/-- What a full evaluation reports, over the records `rs` of the store. -/
structure Evaluates (child : Child) (t : Timeline) (p : Periods) (rs : List Record) (r : Report) :
    Prop where
  detected : ∀ s ∈ r.signals, Detects t s
  built : r.triggered.mapM (Card.ofSignal · child t.now) = .ok r.built
  selected : r.selected = (Ranking.safetyRails (Evidence.valid t.eventIds r.built)).1.filter
    fun c => !Store.resting p rs t.now c.shownPair
  dropped : r.dropped =
    ((Evidence.invalid t.eventIds r.built).map fun x => ⟨x.1, .evidenceInvalid, x.2.message⟩) ++
      (Ranking.safetyRails (Evidence.valid t.eventIds r.built)).2 ++
      ((Ranking.safetyRails (Evidence.valid t.eventIds r.built)).1.filter
        fun c => Store.resting p rs t.now c.shownPair).map fun c =>
          Ranking.cooldownDrop c ((Store.find? rs c.templateId c.childId).map p.endOf)

theorem detects_of_triggered {t : Timeline} {r : Report} (h : ∀ s ∈ r.signals, Detects t s) :
    ∀ s ∈ r.triggered, Detects t s := by
  intro s hs
  exact h s (List.mem_of_mem_filter hs)

/-- A card is dropped for a flaw of its evidence, for its rail or for its cooldown. -/
theorem Evaluates.dropped_reason {child : Child} {t : Timeline} {p : Periods} {rs : List Record}
    {r : Report} (h : Evaluates child t p rs r) {d : Dropped} (hd : d ∈ r.dropped) :
    (d.reason = .evidenceInvalid ∧ d.card ∈ r.built ∧ Evidence.flaw? t.eventIds d.card ≠ none) ∨
      (d.reason = .riskRail ∨ d.reason = .improvementRail) ∨ d.reason = .cooldownActive := by
  rw [h.dropped, List.mem_append, List.mem_append] at hd
  rcases hd with (hd | hd) | hd
  · obtain ⟨⟨c, f⟩, hinvalid, rfl⟩ := List.mem_map.mp hd
    obtain ⟨c', hc', hflaw⟩ := List.mem_filterMap.mp hinvalid
    obtain ⟨f', hf', heq⟩ := Option.map_eq_some_iff.mp hflaw
    cases heq
    left
    refine ⟨rfl, hc', ?_⟩
    rw [hf']
    simp
  · exact Or.inr (Or.inl (Ranking.walkRails_reason _ _ _ d hd))
  · obtain ⟨c, -, rfl⟩ := List.mem_map.mp hd
    exact Or.inr (Or.inr rfl)

/-- A built card comes from a triggered signal. -/
theorem exists_signal_of_built {child : Child} {t : Timeline} {signals : List Signal}
    {built : List Card} (hdetected : ∀ s ∈ signals, Detects t s)
    (h : signals.mapM (Card.ofSignal · child t.now) = .ok built) {c : Card} (hc : c ∈ built) :
    ∃ s ∈ signals, c.templateId = s.kind.name ∧ c.eventIds = s.evidence.eventIds ∧
      c.childId = child.id := by
  obtain ⟨s, hs, hcard⟩ := Outcome.exists_of_mem_mapM h hc
  obtain ⟨c', hc', hfields⟩ := (hdetected s hs).card child t.now
  rw [hcard] at hc'
  cases hc'
  exact ⟨s, hs, hfields⟩

/-- A built card is on the rail of its signal. -/
theorem rail_of_built {child : Child} {t : Timeline} {signals : List Signal}
    {built : List Card} (hdetected : ∀ s ∈ signals, Detects t s)
    (h : signals.mapM (Card.ofSignal · child t.now) = .ok built) :
    ∀ c ∈ built, Ranking.Rail.ofTemplate c.templateId ≠ .neutral := by
  intro c hc
  obtain ⟨s, -, htemplate, -⟩ := exists_signal_of_built hdetected h hc
  rw [htemplate, Ranking.Rail.ofTemplate_name]
  exact Ranking.Rail.ofSignal_ne_neutral s.kind

theorem select_total {child : Child} {t : Timeline} {store : Store} {rs : List Record} {r : Report}
    (hdetected : ∀ s ∈ r.signals, Detects t s) (hcached : store.records = .ok (rs, store)) :
    ∃ r', select child t store r = .ok (r', store) ∧ r'.signals = r.signals ∧
      Evaluates child t store.periods rs r' := by
  have htriggered := detects_of_triggered hdetected
  obtain ⟨built, hbuilt⟩ : ∃ built, r.triggered.mapM (Card.ofSignal · child t.now) = .ok built := by
    apply Outcome.mapM_total
    intro s hs
    obtain ⟨c, hc, -⟩ := (htriggered s hs).card child t.now
    exact ⟨c, hc⟩
  have hrails : ∀ c ∈ Evidence.valid t.eventIds built,
      Ranking.Rail.ofTemplate c.templateId ≠ .neutral := by
    intro c hc
    exact rail_of_built htriggered hbuilt c (List.mem_of_mem_filter hc)
  let free (c : Card) : Bool := !Store.resting store.periods rs t.now c.shownPair
  let safe := Ranking.safetyRails (Evidence.valid t.eventIds built)
  have hcut : Ranking.truncate (safe.1.filter free) maxCards = (safe.1.filter free, []) := by
    apply Ranking.truncate_of_short
    · apply List.Pairwise.filter
      exact (Ranking.sort_pairwise _).sublist (Ranking.safetyRails_sublist _)
    · have hlength := Ranking.safetyRails_length hrails
      exact Nat.le_trans (List.length_filter_le _ _) (Nat.le_trans hlength (by decide))
  unfold select
  dsimp only
  rw [hbuilt, Outcome.ok_bind, Ranking.withoutCooldown_cached hcached, Outcome.ok_bind]
  dsimp only
  rw [hcut]
  refine ⟨_, rfl, rfl, hdetected, hbuilt, rfl, ?_⟩
  exact List.append_nil _

/-- What an evaluation shows. -/
def shown (x : Report × Store) : List Card × Store := (x.1.selected, x.2)

/-- The cards are those that the report selects. -/
theorem generate_eq (src : Source) (store : Store) (childId : String) (now : Instant) :
    generate src store childId now = (run src store childId now).map shown := by
  unfold generate
  cases run src store childId now <;> rfl

/-! ## An evaluation from its parts -/

/-- What is reported of a known child before any card is built. -/
def survey (src : Source) (store : Store) (childId : String) (child : Child) (now : Instant) :
    Except Failure (Report × Store) := do
  let t := Timeline.ofEvents (src.events childId) now
  let signals ← Detect.all (src.goals childId) src.routines t
  let found ← store.active now
  let stats ← statsOf t (src.goals childId) src.routines
  return ({
    childId
    childName := some child.name
    generatedAt := Timestamp.ofInstant now
    signals
    cooldowns := found.1.filter (fun a => a.childId == .ofString childId)
    stats }, found.2)

/-- The report of a child with too little to go by. -/
def sparse (child : Child) (t : Timeline) (r : Report) : Report :=
  { r with
    selected := [Card.insufficientData child t.fortnight.length t.now]
    stages := [⟨.insufficientData, 0, 1⟩] }

/-- The report on a child that nobody knows. -/
def stranger (childId : String) (now : Instant) : Report :=
  { childId
    childName := none
    generatedAt := Timestamp.ofInstant now
    stages := [⟨.noChild, 0, 0⟩] }

/-- The evaluation after the survey. -/
def finish (child : Child) (t : Timeline) (found : Report × Store) :
    Except Failure (Report × Store) :=
  if t.fortnight.length < minEvents then .ok (sparse child t found.1, found.2)
  else select child t found.2 found.1

variable {src : Source} {store store' : Store} {childId : String} {now : Instant} {child : Child}
  {r : Report}

theorem finish_few {t : Timeline} (h : t.fortnight.length < minEvents) (found : Report × Store) :
    finish child t found = .ok (sparse child t found.1, found.2) := if_pos h

theorem finish_enough {t : Timeline} (h : minEvents ≤ t.fortnight.length)
    (found : Report × Store) : finish child t found = select child t found.2 found.1 :=
  if_neg (Nat.not_lt.mpr h)

theorem run_of_child (hchild : src.child childId = some child) (store : Store) (now : Instant) :
    run src store childId now =
      (survey src store childId child now >>=
        finish child (Timeline.ofEvents (src.events childId) now)) := by
  unfold run survey finish
  rw [hchild]
  simp only [bind_assoc, pure_bind]
  rfl

theorem survey_ok (h : survey src store childId child now = .ok (r, store')) :
    Detect.all (src.goals childId) src.routines (Timeline.ofEvents (src.events childId) now) =
        .ok r.signals ∧
      (∃ rs, store.records = .ok (rs, store')) ∧ r.built = [] ∧ r.dropped = [] := by
  unfold survey at h
  obtain ⟨signals, hsignals, h⟩ := Outcome.bind_eq_ok.mp h
  obtain ⟨active, hactive, h⟩ := Outcome.bind_eq_ok.mp h
  obtain ⟨stats, -, h⟩ := Outcome.bind_eq_ok.mp h
  cases h
  obtain ⟨found, hfound, heq⟩ := Outcome.bind_eq_ok.mp hactive
  cases heq
  exact ⟨hsignals, ⟨found.1, hfound⟩, rfl, rfl⟩

theorem survey_error {f : Failure} (h : survey src store childId child now = .error f) :
    Detect.all (src.goals childId) src.routines (Timeline.ofEvents (src.events childId) now) =
        .error f ∨
      store.records = .error f ∨
      statsOf (Timeline.ofEvents (src.events childId) now) (src.goals childId) src.routines =
        .error f := by
  unfold survey at h
  rcases Outcome.bind_eq_error.mp h with hsignals | ⟨signals, -, h⟩
  · exact Or.inl hsignals
  · rcases Outcome.bind_eq_error.mp h with hactive | ⟨found, -, h⟩
    · rcases Outcome.bind_eq_error.mp hactive with hrecords | ⟨found, -, hactive⟩
      · exact Or.inr (Or.inl hrecords)
      · cases hactive
    · rcases Outcome.bind_eq_error.mp h with hstats | ⟨stats, -, h⟩
      · exact Or.inr (Or.inr hstats)
      · cases h

/-- With enough to go by, a survey goes on to its selection. -/
theorem run_of_survey (hchild : src.child childId = some child)
    (hevents : minEvents ≤ (Timeline.ofEvents (src.events childId) now).fortnight.length)
    (h : survey src store childId child now = .ok (r, store')) :
    ∃ r' rs, run src store childId now = .ok (r', store') ∧ store.records = .ok (rs, store') ∧
      r'.signals = r.signals ∧
      Evaluates child (Timeline.ofEvents (src.events childId) now) store.periods rs r' := by
  obtain ⟨hall, ⟨rs, hrecords⟩, -, -⟩ := survey_ok h
  obtain ⟨hcached, hperiods⟩ := Store.records_again hrecords
  obtain ⟨r', hselect, hsignals, hevaluates⟩ := select_total (detects_of_all hall) hcached
  rw [hperiods] at hevaluates
  refine ⟨r', rs, ?_, hrecords, hsignals, hevaluates⟩
  rw [run_of_child hchild, h, Outcome.ok_bind, finish_enough hevents, hselect]

/-- What the survey's cards compute to is told of the cards that are built. -/
theorem run_of_cards {α : Type} {f : List Card → α} {x : α}
    (hchild : src.child childId = some child)
    (hevents : minEvents ≤ (Timeline.ofEvents (src.events childId) now).fortnight.length)
    (h : (survey src store childId child now >>= fun found =>
      (found.1.triggered.mapM (Card.ofSignal · child now)).map f) = .ok x) :
    ∃ r store' rs, run src store childId now = .ok (r, store') ∧
      store.records = .ok (rs, store') ∧
      Evaluates child (Timeline.ofEvents (src.events childId) now) store.periods rs r ∧
      f r.built = x := by
  obtain ⟨⟨report, store'⟩, hsurvey, hcards⟩ := Outcome.bind_eq_ok.mp h
  obtain ⟨r, rs, hrun, hrecords, hsignals, hr⟩ := run_of_survey hchild hevents hsurvey
  have htriggered : report.triggered = r.triggered := by
    unfold Report.triggered
    rw [hsignals]
  have hbuilt : r.triggered.mapM (Card.ofSignal · child now) = .ok r.built := hr.built
  rw [htriggered, hbuilt] at hcards
  exact ⟨r, store', rs, hrun, hrecords, hr, Except.ok.inj hcards⟩

theorem sparse_built (h : survey src store childId child now = .ok (r, store')) (t : Timeline) :
    (sparse child t r).built = [] := (survey_ok h).2.2.1

/-- An evaluation with enough to go by. -/
theorem run_known (hchild : src.child childId = some child)
    (hevents : minEvents ≤ (Timeline.ofEvents (src.events childId) now).fortnight.length) :
    let t := Timeline.ofEvents (src.events childId) now
    (∀ r store', run src store childId now = .ok (r, store') →
      ∃ rs, store.records = .ok (rs, store') ∧
        Detect.all (src.goals childId) src.routines t = .ok r.signals ∧
        Evaluates child t store.periods rs r) ∧
    (∀ f, run src store childId now = .error f →
      Detect.all (src.goals childId) src.routines t = .error f ∨ store.records = .error f ∨
        statsOf t (src.goals childId) src.routines = .error f) := by
  intro t
  cases hsurvey : survey src store childId child now with
  | error f =>
    have hrun : run src store childId now = .error f := by
      rw [run_of_child hchild, hsurvey, Outcome.error_bind]
    rw [hrun]
    constructor
    · intro r store' h
      cases h
    · intro f' h
      cases h
      exact survey_error hsurvey
  | ok found =>
    obtain ⟨report, cached⟩ := found
    obtain ⟨r', rs, hrun, hrecords, hsignals, hevaluates⟩ := run_of_survey hchild hevents hsurvey
    rw [hrun]
    constructor
    · intro r store' h
      cases h
      exact ⟨rs, hrecords, by rw [hsignals]; exact (survey_ok hsurvey).1, hevaluates⟩
    · intro f h
      cases h

/-- The ways in which an evaluation ends: without a child, with too little to go by, or with a
selection. -/
inductive Ends (src : Source) (store : Store) (childId : String) (now : Instant) :
    Report → Store → Prop where
  | unknown (hchild : src.child childId = none) :
    Ends src store childId now (stranger childId now) store
  | few {child : Child} {report : Report} {read : Store}
    (hchild : src.child childId = some child)
    (hfew : (Timeline.ofEvents (src.events childId) now).fortnight.length < minEvents)
    (hsurvey : survey src store childId child now = .ok (report, read)) :
    Ends src store childId now
      (sparse child (Timeline.ofEvents (src.events childId) now) report) read
  | full {child : Child} {rs : List Record} {report : Report} {read : Store}
    (hchild : src.child childId = some child)
    (hevents : minEvents ≤ (Timeline.ofEvents (src.events childId) now).fortnight.length)
    (hrecords : store.records = .ok (rs, read))
    (hall : Detect.all (src.goals childId) src.routines
      (Timeline.ofEvents (src.events childId) now) = .ok report.signals)
    (hr : Evaluates child (Timeline.ofEvents (src.events childId) now) store.periods rs report) :
    Ends src store childId now report read

theorem run_ends (h : run src store childId now = .ok (r, store')) :
    Ends src store childId now r store' := by
  cases hchild : src.child childId with
  | none =>
    unfold run at h
    rw [hchild] at h
    cases h
    exact .unknown hchild
  | some child =>
    by_cases hfew : (Timeline.ofEvents (src.events childId) now).fortnight.length < minEvents
    · rw [run_of_child hchild] at h
      obtain ⟨⟨report, read⟩, hsurvey, h⟩ := Outcome.bind_eq_ok.mp h
      rw [finish_few hfew] at h
      cases h
      exact .few hchild hfew hsurvey
    · have hevents := Nat.not_lt.mp hfew
      obtain ⟨rs, hrecords, hall, hr⟩ := (run_known hchild hevents).1 r store' h
      exact .full hchild hevents hrecords hall hr

theorem run_without_cards (h : run src store childId now = .ok (r, store'))
    (hfew : src.child childId = none ∨
      (Timeline.ofEvents (src.events childId) now).fortnight.length < minEvents) :
    r.built = [] ∧ r.dropped = [] := by
  cases run_ends h with
  | unknown hchild => exact ⟨rfl, rfl⟩
  | few hchild hevents hsurvey => exact (survey_ok hsurvey).2.2
  | full hchild hevents hrecords hall hr =>
    rw [hchild] at hfew
    rcases hfew with hnone | hevents'
    · cases hnone
    · exact absurd hevents' (Nat.not_lt.mpr hevents)

/-- An evaluation changes at most the cache. -/
theorem run_store (h : run src store childId now = .ok (r, store')) :
    store' = store ∨ ∃ rs, store.records = .ok (rs, store') := by
  cases run_ends h with
  | unknown hchild => exact Or.inl rfl
  | few hchild hevents hsurvey => exact Or.inr (survey_ok hsurvey).2.1
  | full hchild hevents hrecords hall hr => exact Or.inr ⟨_, hrecords⟩

end Engine

/-! ## A child without moments in the week -/

/-- Three good moments, ten days before the twentieth day. -/
def oldMoments : List Event :=
  ["e1", "e2", "e3"].map fun id =>
    { id, childId := "c1", time := Instant.epoch.shift (Duration.days 10), category := .positive,
      stars := 1, behaviorId := "b1", behaviorName := "Sharing", goalId := none,
      caregiverId := none }

def twentiethDay : Instant := Instant.epoch.shift (Duration.days 20)

/-- A goal that is due five days later. -/
def nearGoal : Goal :=
  { id := "g1", childId := "c1", name := "Bike", targetPoints := 100, currentPoints := 20,
    created := Instant.epoch, due := some (Instant.epoch.shift (Duration.days 25)),
    redeemed := false, expired := false }

def oldChild : Child := { id := "c1", name := "Ada", age := none, activeGoalId := none }

def oldSource : Source :=
  Roster.source { children := [oldChild], events := oldMoments, goals := [nearGoal], behaviors := [] }

theorem oldSource_enough : minEvents ≤
    (Timeline.ofEvents (oldSource.events "c1") twentiethDay).fortnight.length := by
  decide +kernel

theorem oldSource_signals (f : Failure) :
    Detect.all (oldSource.goals "c1") oldSource.routines
      (Timeline.ofEvents (oldSource.events "c1") twentiethDay) ≠ .error f := by
  intro h
  have hok : (Detect.all (oldSource.goals "c1") oldSource.routines
      (Timeline.ofEvents (oldSource.events "c1") twentiethDay)).isOk = true := by
    decide +kernel
  rw [h] at hok
  cases hok

theorem oldSource_stats (f : Failure) :
    Engine.statsOf (Timeline.ofEvents (oldSource.events "c1") twentiethDay) (oldSource.goals "c1")
      oldSource.routines ≠ .error f := by
  intro h
  have hok : (Engine.statsOf (Timeline.ofEvents (oldSource.events "c1") twentiethDay)
      (oldSource.goals "c1") oldSource.routines).isOk = true := by
    decide +kernel
  rw [h] at hok
  cases hok

end MomentInsights
