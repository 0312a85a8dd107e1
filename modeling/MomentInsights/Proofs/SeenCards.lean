-- Which displayed cards are recorded. Only the first card of an id is judged: it is recorded
-- if it has no time on screen, if the parent did something with it, or if it was on screen
-- for long enough. The recorded templates rest from then on, and no other pair is written.
import MomentInsights.Proofs.OtherChildren
import MomentInsights.Proofs.RepeatedWrites
import MomentInsights.Proofs.TimesOnScreen

namespace MomentInsights

namespace Service

open Cooldown (Store)

/-! ## Cards that count as seen -/

/-- The time on screen, to the microsecond, reaches the threshold. -/
def DisplayedCard.lasts (threshold : Number) (d : DisplayedCard) : Bool :=
  d.visibleSeconds.any fun x =>
    (Duration.ofSeconds (.real x)).toOption.any fun span => threshold.leReal span.seconds

/-- The card counts as seen: it has no time on screen, the parent did something with it,
or it was on screen for long enough. -/
def DisplayedCard.counts (threshold : Number) (d : DisplayedCard) : Bool :=
  d.isSeen || d.lasts threshold

/-! ## Cards with a time on screen -/

/-- The cards are put on screen one by one, each since its own time. -/
theorem visibleFor_all {time : Instant} (htime : time.Supported)
    {cards : List (ShownCard × DisplayedCard)} (hids : (cards.map (·.1.id)).Nodup)
    (htimed : ∀ c ∈ cards, ∃ x, c.2.visibleSeconds = some x ∧ x.WithinDay) {t : Tracker}
    (hnone : t.recorded = []) :
    ∃ t', cards.foldlM (fun t c =>
        t.visibleFor c.1 (.real (c.2.visibleSeconds.getD .zero)) (Timestamp.ofInstant time)) t =
          .ok t' ∧
      t'.recorded = [] ∧
      (∀ c ∈ cards, t'.hasMet c.1 (Timestamp.ofInstant time) = .ok (c.2.lasts t.threshold)) ∧
      ∀ d : ShownCard, (∀ c ∈ cards, d.id ≠ c.1.id) →
        t'.hasMet d (Timestamp.ofInstant time) = t.hasMet d (Timestamp.ofInstant time) := by
  induction cards generalizing t with
  | nil => exact ⟨t, rfl, hnone, by simp, fun d _ => rfl⟩
  | cons c cards ih =>
    obtain ⟨hfirst, hids⟩ := List.nodup_cons.mp hids
    obtain ⟨x, hx, hday⟩ := htimed c List.mem_cons_self
    have hnew : t.isRecorded c.1 = false := Tracker.isRecorded_of_none hnone c.1
    obtain ⟨since, hvisible, hmet⟩ := Tracker.hasMet_visibleFor hday htime hnew
    obtain ⟨t', hrest, hnone', hcards, hothers⟩ := ih (t := t.visibleSince c.1 since) hids
      (fun d hd => htimed d (List.mem_cons_of_mem c hd)) hnone
    have hlasts : c.2.lasts t.threshold =
        (Duration.ofSeconds (.real x)).toOption.any fun span => t.threshold.leReal span.seconds := by
      unfold DisplayedCard.lasts
      rw [hx]
      rfl
    refine ⟨t', ?_, hnone', ?_, ?_⟩
    · rw [List.foldlM_cons, hx, Option.getD_some, hvisible, Outcome.ok_bind, hrest]
    · intro d hd
      rcases List.mem_cons.mp hd with rfl | hd
      · rw [hothers d.1 ?_, hmet, hlasts]
        intro e he heq
        exact hfirst (List.mem_map.mpr ⟨e, he, heq.symm⟩)
      · exact hcards d hd
    · intro d hd
      rw [hothers d fun e he => hd e (List.mem_cons_of_mem c he)]
      have hthreshold : (t.visibleSince c.1 since).threshold = t.threshold := rfl
      have hother := hd c List.mem_cons_self
      exact Tracker.hasMet_congr hthreshold (Tracker.since?_visibleSince_of_ne hother since) _

/-! ## What is recorded -/

/-- The cards that count as seen at once. -/
def atOnce (cards : List (ShownCard × DisplayedCard)) : List ShownCard :=
  (cards.filter (·.2.isSeen)).map (·.1)

/-- The cards that were on screen for long enough. -/
def inTime (threshold : Number) (cards : List (ShownCard × DisplayedCard)) : List ShownCard :=
  (cards.filter fun c => !c.2.isSeen && c.2.lasts threshold).map (·.1)

/-- The other cards. -/
def tooShort (threshold : Number) (cards : List (ShownCard × DisplayedCard)) : List ShownCard :=
  (cards.filter fun c => !c.2.counts threshold).map (·.1)

theorem recordThem_eq {t : Tracker} {store : Store} {cards : List ShownCard} {time : Instant} :
    Impressions.recordThem ⟨t, store⟩ cards (Timestamp.ofInstant time) =
      ((store.displayed (cards.map ShownCard.pair) time).map fun _ => cards,
        ⟨cards.foldl Tracker.mark t,
          (Engine.recordDisplayed (cards.map ShownCard.pair) store
            (Timestamp.ofInstant time)).2⟩) := by
  unfold Impressions.recordThem Impressions.record Store.displayed
  dsimp only
  cases (Engine.recordDisplayed (cards.map ShownCard.pair) store
    (Timestamp.ofInstant time)).1 <;> rfl

section

variable {threshold : Number} {cards : List (ShownCard × DisplayedCard)} {time : Instant}
  {tracker : Tracker}

/-- A card with a time on screen has another id than those that count as seen at once. -/
theorem ne_of_mem_atOnce (hids : (cards.map (·.1.id)).Nodup) {c : ShownCard × DisplayedCard}
    (hc : c ∈ cards.filter (!·.2.isSeen)) : ∀ d ∈ atOnce cards, c.1.id ≠ d.id := by
  rintro d hd heq
  obtain ⟨hc, htimed⟩ := List.mem_filter.mp hc
  obtain ⟨e, he, rfl⟩ := List.mem_map.mp hd
  obtain ⟨he, hseen⟩ := List.mem_filter.mp he
  obtain rfl := List.inj_on_of_nodup_map hids hc he heq
  rw [hseen] at htimed
  cases htimed

theorem isRecorded_atOnce (hids : (cards.map (·.1.id)).Nodup) (hnone : tracker.recorded = [])
    {c : ShownCard × DisplayedCard} (hc : c ∈ cards.filter (!·.2.isSeen)) :
    ((atOnce cards).foldl Tracker.mark tracker).isRecorded c.1 = false := by
  rw [Tracker.isRecorded_foldl_mark, Tracker.isRecorded_of_none hnone, Bool.or_false,
    List.any_eq_false]
  intro d hd heq
  exact ne_of_mem_atOnce hids hc d hd (beq_iff_eq.mp heq)

/-- The cards that are due after those that count as seen at once. -/
theorem due_timed (hids : (cards.map (·.1.id)).Nodup) (hnone : tracker.recorded = [])
    (hmet : ∀ c ∈ cards.filter (!·.2.isSeen),
      tracker.hasMet c.1 (Timestamp.ofInstant time) = .ok (c.2.lasts threshold)) :
    ((atOnce cards).foldl Tracker.mark tracker).due ((cards.filter (!·.2.isSeen)).map (·.1))
      (Timestamp.ofInstant time) = .ok (inTime threshold cards) := by
  have hnew : ∀ c ∈ (cards.filter (!·.2.isSeen)).map (·.1),
      ((atOnce cards).foldl Tracker.mark tracker).isRecorded c = false := by
    intro c hc
    obtain ⟨entry, hentry, rfl⟩ := List.mem_map.mp hc
    exact isRecorded_atOnce hids hnone hentry
  unfold Tracker.due inTime
  rw [Tracker.unrecorded_of_none hnew, Outcome.filterM_map (fun c => c.2.lasts threshold),
    List.filter_filter]
  · simp only [Bool.and_comm]
  · intro c hc
    rw [Tracker.hasMet_foldl_mark (ne_of_mem_atOnce hids hc), hmet c hc]

/-- The cards that are left then. -/
theorem unrecorded_timed (hids : (cards.map (·.1.id)).Nodup) (hnone : tracker.recorded = []) :
    ((inTime threshold cards).foldl Tracker.mark
      ((atOnce cards).foldl Tracker.mark tracker)).unrecorded
        ((cards.filter (!·.2.isSeen)).map (·.1)) = tooShort threshold cards := by
  have hmarked : ∀ c ∈ cards.filter (!·.2.isSeen),
      (!((inTime threshold cards).foldl Tracker.mark
        ((atOnce cards).foldl Tracker.mark tracker)).isRecorded c.1) = !c.2.lasts threshold := by
    intro c hc
    obtain ⟨hcards, htimed⟩ := List.mem_filter.mp hc
    have hany : (inTime threshold cards).any (c.1.id == ·.id) = c.2.lasts threshold := by
      rw [Bool.eq_iff_iff, List.any_eq_true]
      constructor
      · rintro ⟨d, hd, heq⟩
        obtain ⟨e, he, rfl⟩ := List.mem_map.mp hd
        obtain ⟨he, hlasts⟩ := List.mem_filter.mp he
        obtain rfl := List.inj_on_of_nodup_map hids hcards he (beq_iff_eq.mp heq)
        exact (Bool.and_eq_true_iff.mp hlasts).2
      · intro hlasts
        refine ⟨c.1, List.mem_map.mpr ⟨c, List.mem_filter.mpr ⟨hcards, ?_⟩, rfl⟩, beq_self_eq_true _⟩
        rw [htimed, hlasts]
        rfl
    rw [Tracker.isRecorded_foldl_mark, isRecorded_atOnce hids hnone hc, Bool.or_false, hany]
  unfold Tracker.unrecorded tooShort
  rw [List.filter_map, Function.comp_def, List.filter_congr hmarked, List.filter_filter]
  simp only [DisplayedCard.counts, Bool.not_or, Bool.and_comm]

/-- What a display records, where all cards have ids of their own: the cards that count
as seen at once, then those that were on screen for long enough. -/
theorem display_eq_ok {store : Store} {d : Display} (htime : time.Supported)
    (hids : (cards.map (·.1.id)).Nodup)
    (hday : ∀ c ∈ cards, ∀ x, c.2.visibleSeconds = some x → x.WithinDay) :
    display threshold cards time store = .ok d ↔
      ∃ store', store.displayed (Store.merged ((atOnce cards).map ShownCard.pair)
          ((inTime threshold cards).map ShownCard.pair)) time = .ok store' ∧
        d = ⟨atOnce cards ++ inTime threshold cards, tooShort threshold cards, store'⟩ := by
  have htimed : ∀ c ∈ cards.filter (!·.2.isSeen),
      ∃ x, c.2.visibleSeconds = some x ∧ x.WithinDay := by
    intro c hc
    obtain ⟨hc, hnot⟩ := List.mem_filter.mp hc
    cases hx : c.2.visibleSeconds with
    | none => simp [DisplayedCard.isSeen, hx] at hnot
    | some x => exact ⟨x, rfl, hday c hc x hx⟩
  have hids' : ((cards.filter (!·.2.isSeen)).map (·.1.id)).Nodup :=
    hids.sublist (List.filter_sublist.map _)
  obtain ⟨tracker, htracker, hnone, hmet, -⟩ :=
    visibleFor_all htime hids' htimed (t := Tracker.mk threshold [] []) rfl
  have hseen : Impressions.recordAll ⟨tracker, store⟩ (atOnce cards) (Timestamp.ofInstant time) =
      Impressions.recordThem ⟨tracker, store⟩ (atOnce cards) (Timestamp.ofInstant time) := by
    unfold Impressions.recordAll
    rw [Tracker.unrecorded_of_none fun c _ => Tracker.isRecorded_of_none hnone c]
  have hrest (store₁ : Store) : Impressions.recordDue
      ⟨(atOnce cards).foldl Tracker.mark tracker, store₁⟩
        ((cards.filter (!·.2.isSeen)).map (·.1)) (Timestamp.ofInstant time) =
      Impressions.recordThem ⟨(atOnce cards).foldl Tracker.mark tracker, store₁⟩
        (inTime threshold cards) (Timestamp.ofInstant time) := by
    unfold Impressions.recordDue
    rw [due_timed hids hnone hmet]
  simp only [← Store.displayed_merged]
  unfold display
  dsimp only
  rw [htracker, Outcome.ok_bind]
  rw [show (cards.filter (·.2.isSeen)).map (·.1) = atOnce cards from rfl, hseen, recordThem_eq]
  cases hfirst : store.displayed ((atOnce cards).map ShownCard.pair) time with
  | error e => simp [Except.map]
  | ok store₁ =>
    rw [Store.store_of_displayed hfirst]
    simp only [Except.map, Outcome.ok_bind, hrest, recordThem_eq]
    cases hsecond : store₁.displayed ((inTime threshold cards).map ShownCard.pair) time with
    | error e => simp [hsecond]
    | ok store₂ =>
      rw [Store.store_of_displayed hsecond]
      simp only [Outcome.ok_bind, unrecorded_timed hids hnone, Outcome.pure_eq_ok, Except.ok.injEq]
      simp [hsecond, eq_comm]

end

/-! ## The cards of a report -/

/-- The card is the first of its id in the report. -/
def IsFirst (cards : List DisplayedCard) (childId : String) (d : DisplayedCard) : Prop :=
  cards.find? (fun e => (e.shown childId).id == (d.shown childId).id) = some d

section

variable {threshold : Number} {cards : List DisplayedCard} {childId : String}

theorem mem_firstOfEach {c : ShownCard × DisplayedCard} :
    c ∈ firstOfEach cards childId ↔ c.1 = c.2.shown childId ∧ IsFirst cards childId c.2 := by
  unfold firstOfEach IsFirst
  rw [Order.mem_eraseDupsBy_iff fun c : ShownCard × DisplayedCard => c.1.id, List.find?_map,
    Option.map_eq_some_iff]
  constructor
  · rintro ⟨d, hd, rfl⟩
    exact ⟨rfl, hd⟩
  · rintro ⟨hshown, hfirst⟩
    refine ⟨c.2, ?_, Prod.ext hshown.symm rfl⟩
    rw [hshown]
    exact hfirst

theorem nodup_firstOfEach (cards : List DisplayedCard) (childId : String) :
    ((firstOfEach cards childId).map (·.1.id)).Nodup :=
  Order.nodup_map_eraseDupsBy (fun c : ShownCard × DisplayedCard => c.1.id) _

theorem mem_of_isFirst {d : DisplayedCard} (h : IsFirst cards childId d) : d ∈ cards :=
  List.mem_of_find?_eq_some h

theorem mem_filter_firstOfEach {keep : ShownCard × DisplayedCard → Bool} {c : ShownCard} :
    c ∈ ((firstOfEach cards childId).filter keep).map (·.1) ↔
      ∃ d, IsFirst cards childId d ∧ keep (d.shown childId, d) = true ∧ d.shown childId = c := by
  rw [List.mem_map]
  constructor
  · rintro ⟨entry, hentry, rfl⟩
    obtain ⟨hmem, hkeep⟩ := List.mem_filter.mp hentry
    obtain ⟨hshown, hfirst⟩ := mem_firstOfEach.mp hmem
    refine ⟨entry.2, hfirst, ?_, hshown.symm⟩
    rwa [← hshown]
  · rintro ⟨d, hfirst, hkeep, rfl⟩
    exact ⟨_, List.mem_filter.mpr ⟨mem_firstOfEach.mpr ⟨rfl, hfirst⟩, hkeep⟩, rfl⟩

/-- The cards that are recorded are the first of their ids and count as seen. -/
theorem mem_recorded_iff {c : ShownCard} :
    c ∈ atOnce (firstOfEach cards childId) ++ inTime threshold (firstOfEach cards childId) ↔
      ∃ d, IsFirst cards childId d ∧ d.counts threshold = true ∧ d.shown childId = c := by
  unfold atOnce inTime DisplayedCard.counts
  rw [List.mem_append, mem_filter_firstOfEach, mem_filter_firstOfEach]
  constructor
  · rintro (⟨d, hfirst, hseen, hc⟩ | ⟨d, hfirst, hlasts, hc⟩)
    · exact ⟨d, hfirst, Bool.or_eq_true_iff.mpr (Or.inl hseen), hc⟩
    · exact ⟨d, hfirst, Bool.or_eq_true_iff.mpr (Or.inr (Bool.and_eq_true_iff.mp hlasts).2), hc⟩
  · rintro ⟨d, hfirst, hcounts, hc⟩
    cases hseen : d.isSeen with
    | true => exact Or.inl ⟨d, hfirst, hseen, hc⟩
    | false =>
      rw [hseen, Bool.false_or] at hcounts
      exact Or.inr ⟨d, hfirst, by rw [hseen, hcounts]; rfl, hc⟩

theorem mem_tooShort_iff {c : ShownCard} :
    c ∈ tooShort threshold (firstOfEach cards childId) ↔
      ∃ d, IsFirst cards childId d ∧ d.counts threshold = false ∧ d.shown childId = c := by
  unfold tooShort
  simp only [mem_filter_firstOfEach, Bool.not_eq_true']

/-- The templates that a report records, in order. -/
def seenTemplates (threshold : Number) (cards : List DisplayedCard) (childId : String) :
    List String :=
  inOrder ((atOnce (firstOfEach cards childId) ++
    inTime threshold (firstOfEach cards childId)).map (·.templateId)).eraseDups

/-- The ids of the cards that a report leaves, in order. -/
def unseenIds (threshold : Number) (cards : List DisplayedCard) (childId : String) :
    List WideText :=
  inOrder ((tooShort threshold (firstOfEach cards childId)).map (·.id))

theorem mem_seenTemplates {t : String} :
    t ∈ seenTemplates threshold cards childId ↔
      ∃ d, IsFirst cards childId d ∧ d.counts threshold = true ∧ d.templateId = t := by
  unfold seenTemplates
  rw [mem_inOrder, List.mem_eraseDups, List.mem_map]
  constructor
  · rintro ⟨c, hc, rfl⟩
    obtain ⟨d, hfirst, hcounts, rfl⟩ := mem_recorded_iff.mp hc
    exact ⟨d, hfirst, hcounts, rfl⟩
  · rintro ⟨d, hfirst, hcounts, rfl⟩
    exact ⟨_, mem_recorded_iff.mpr ⟨d, hfirst, hcounts, rfl⟩, rfl⟩

theorem mem_unseenIds {id : WideText} :
    id ∈ unseenIds threshold cards childId ↔
      ∃ d, IsFirst cards childId d ∧ d.counts threshold = false ∧ (d.shown childId).id = id := by
  unfold unseenIds
  rw [mem_inOrder, List.mem_map]
  constructor
  · rintro ⟨c, hc, rfl⟩
    obtain ⟨d, hfirst, hcounts, rfl⟩ := mem_tooShort_iff.mp hc
    exact ⟨d, hfirst, hcounts, rfl⟩
  · rintro ⟨d, hfirst, hcounts, rfl⟩
    exact ⟨_, mem_tooShort_iff.mpr ⟨d, hfirst, hcounts, rfl⟩, rfl⟩

/-- The pairs that a report writes. -/
theorem mem_written {pair : String × String} :
    pair ∈ Store.merged ((atOnce (firstOfEach cards childId)).map ShownCard.pair)
        ((inTime threshold (firstOfEach cards childId)).map ShownCard.pair) ↔
      ∃ t ∈ seenTemplates threshold cards childId, (t, childId) = pair := by
  rw [Store.mem_merged, ← List.mem_append, ← List.map_append, List.mem_map]
  constructor
  · rintro ⟨c, hc, rfl⟩
    obtain ⟨d, hfirst, hcounts, rfl⟩ := mem_recorded_iff.mp hc
    exact ⟨d.templateId, mem_seenTemplates.mpr ⟨d, hfirst, hcounts, rfl⟩, rfl⟩
  · rintro ⟨t, ht, rfl⟩
    obtain ⟨d, hfirst, hcounts, rfl⟩ := mem_seenTemplates.mp ht
    exact ⟨_, mem_recorded_iff.mpr ⟨d, hfirst, hcounts, rfl⟩, rfl⟩

/-- What an accepted report of displays of a child does, between two states of the service,
and what its reply tells. -/
structure RecordsSeen (threshold : Number) (cards : List DisplayedCard) (childId : String)
    (time : Instant) (before after : Server) (recorded : List String) (notSeen : List WideText) :
    Prop where
  sorted : recorded.Pairwise fun a b => compare a b = .lt
  /-- The templates of the cards that count as seen and are the first of their ids. -/
  seen : ∀ t, t ∈ recorded ↔
    ∃ d, IsFirst cards childId d ∧ d.counts threshold = true ∧ d.templateId = t
  sortedIds : notSeen.Pairwise fun a b => compare a b = .lt
  /-- The ids of the others that are the first of them. -/
  unseen : ∀ id, id ∈ notSeen ↔
    ∃ d, IsFirst cards childId d ∧ d.counts threshold = false ∧ (d.shown childId).id = id
  shown : ∀ t ∈ recorded, after.shown? (t, childId) = some time
  rests : ∀ t ∈ recorded, ∀ now, after.rests now (t, childId) = .ok (time.restsAt now)
  /-- No other pair has a new record. -/
  others : ∀ rs', after.stored = .ok rs' → ∀ r ∈ rs',
    (∃ t ∈ recorded, r = .ofPair (t, childId) time) ∨ ∃ rs, before.stored = .ok rs ∧ r ∈ rs

end

/-! ## What is stored -/

/-- The service with another cooldown text. -/
def Server.withText (s : Server) (text : Option String) : Server :=
  { s with tables := { s.tables with cooldowns := text } }

section

open Cooldown (Record)

variable {s : Server} {store' : Store} {pairs : List (String × String)} {time : Instant}

/-- The stored text after a display of some pairs. -/
theorem stored_displayed (htime : time.Supported)
    (h : s.store.displayed pairs time = .ok store') (hpairs : pairs ≠ []) :
    ∃ rs, s.stored = .ok rs ∧
      (s.withText store'.text).stored = .ok (Store.kept .standard rs pairs time) := by
  have hend : s.store.periods.hasEnd time = true := Engine.hasEnd_of_supported htime.2
  rw [Store.displayed_eq, if_neg hpairs] at h
  obtain ⟨rs, hdecode, -, rfl⟩ := (Store.record_written hend).mp h
  refine ⟨rs, hdecode, Cooldown.decode_encode ?_ s.settings.room⟩
  exact Store.readsBack_of_mem_kept (Cooldown.readsBack_of_decode hdecode) hend

theorem store_records {rs : List Record} (h : s.stored = .ok rs) :
    s.store.records = .ok (rs, { s.store with cache := some rs }) := by
  have hdecode : Cooldown.decode s.store.periods s.store.room s.store.text = .ok rs := h
  have hcache : s.store.cache = none := rfl
  unfold Store.records
  rw [hcache, hdecode]
  rfl

/-- A pair that was displayed rests from then on. -/
theorem rests_of_displayed (htime : time.Supported)
    (h : s.store.displayed pairs time = .ok store') {pair : String × String}
    (hpair : pair ∈ pairs) :
    (s.withText store'.text).shown? pair = some time ∧
      ∀ now, (s.withText store'.text).rests now pair = .ok (time.restsAt now) := by
  obtain ⟨rs, -, hwritten⟩ := stored_displayed htime h (List.ne_nil_of_mem hpair)
  have hfound : Store.find? (Store.kept .standard rs pairs time) pair.1 pair.2 =
      some (.ofPair pair time) := Store.find?_kept hpair (Cooldown.back_lt_of_supported htime)
  constructor
  · unfold Server.shown?
    rw [hwritten]
    simp only [Except.toOption, Option.bind_some, hfound]
    rfl
  · intro now
    have hends := Cooldown.endOf_supported htime
    unfold Server.rests Instant.restsAt
    rw [Store.isOnCooldown_of_records (store_records hwritten)]
    unfold Store.resting
    rw [hfound, Option.map_some, Option.any_some]
    have hlt : now < time.shift Cooldown.Periods.standard.rest ↔
        (now.micros : Int) < time.micros + (Duration.days 3).micros := by
      rw [← hends]
      exact Int.ofNat_lt.symm
    exact congrArg Except.ok (decide_eq_decide.mpr hlt)

/-- Every other record was there before. -/
theorem mem_of_displayed (htime : time.Supported) (h : s.store.displayed pairs time = .ok store')
    {rs' : List Record} (hrs' : (s.withText store'.text).stored = .ok rs') {r : Record}
    (hr : r ∈ rs') :
    (∃ pair ∈ pairs, r = .ofPair pair time) ∨ ∃ rs, s.stored = .ok rs ∧ r ∈ rs := by
  by_cases hpairs : pairs = []
  · rw [Store.displayed_eq, if_pos hpairs] at h
    cases h
    exact Or.inr ⟨rs', hrs', hr⟩
  · obtain ⟨rs, hstored, hwritten⟩ := stored_displayed htime h hpairs
    cases hwritten.symm.trans hrs'
    rcases Store.mem_of_mem_kept hr with hold | hfresh
    · exact Or.inr ⟨rs, hstored, hold⟩
    · exact Or.inl hfresh

end

/-! ## The report -/

theorem sorted_inOrder {α : Type} [Ord α] [Std.TransOrd α] [Std.LawfulEqOrd α] {xs : List α}
    (h : xs.Nodup) : (inOrder xs).Pairwise fun a b => compare a b = .lt := by
  apply Order.pairwise_lt
  apply h.imp
  intro a b hne heq
  exact hne (Std.LawfulEqOrd.eq_of_compare heq)

namespace Server

variable {s : Server} {q : Request} {childId : String} {f : DisplayedForm}

/-- The cards of an accepted report were on screen for at most a day. -/
theorem day_of_form (hform : q.form s.settings.bodyDepth DisplayedForm.check = .ok f)
    (childId : String) :
    ∀ c ∈ firstOfEach f.cards childId, ∀ x, c.2.visibleSeconds = some x → x.WithinDay := by
  obtain ⟨j, hcheck⟩ := Request.form_eq_ok hform
  obtain ⟨hday, -⟩ := DisplayedForm.check_eq_good hcheck
  intro c hc
  exact hday c.2 (mem_of_isFirst (mem_firstOfEach.mp hc).2)

/-- A time that the report names is supported. -/
theorem supported_of_form (hform : q.form s.settings.bodyDepth DisplayedForm.check = .ok f)
    {t : Instant} (ht : f.time = some t) : t.Supported := by
  obtain ⟨j, hcheck⟩ := Request.form_eq_ok hform
  exact (DisplayedForm.check_eq_good hcheck).2 t ht

/-- What is written of the cards that count as seen and are the first of their ids. -/
theorem recordsSeen_of_displayed {threshold : Number} {cards : List DisplayedCard}
    {time : Instant} {store' : Store} (htime : time.Supported)
    (h : s.store.displayed (Store.merged
      ((atOnce (firstOfEach cards childId)).map ShownCard.pair)
      ((inTime threshold (firstOfEach cards childId)).map ShownCard.pair)) time = .ok store') :
    RecordsSeen threshold cards childId time s (s.withText store'.text)
      (seenTemplates threshold cards childId) (unseenIds threshold cards childId) where
  sorted := sorted_inOrder (Order.nodup_eraseDups _)
  seen _ := mem_seenTemplates
  sortedIds := by
    apply sorted_inOrder
    unfold tooShort
    rw [List.map_map]
    exact (nodup_firstOfEach cards childId).sublist (List.filter_sublist.map _)
  unseen _ := mem_unseenIds
  shown t ht := (rests_of_displayed htime h (mem_written.mpr ⟨t, ht, rfl⟩)).1
  rests t ht := (rests_of_displayed htime h (mem_written.mpr ⟨t, ht, rfl⟩)).2
  others rs' hrs' r hr := by
    rcases mem_of_displayed htime h hrs' hr with ⟨pair, hpair, rfl⟩ | hold
    · obtain ⟨t, ht, rfl⟩ := mem_written.mp hpair
      exact Or.inl ⟨t, ht, rfl⟩
    · exact Or.inr hold

/-- An accepted report of displays records just the templates of those cards that are the
first of their ids and count as seen. -/
theorem displayed_records_first_seen (hq : q.GoesTo (.displayed childId))
    (hform : q.form s.settings.bodyDepth DisplayedForm.check = .ok f)
    (haccepted : (s.handle q).1.status = 200) (htime : (f.time.getD s.clock).Supported) :
    ∃ recorded notSeen,
      (s.handle q).1 = .json 200 (.obj [("child_id", .str childId),
        ("recorded", Json.strings recorded), ("not_seen", .arr (notSeen.map Json.text)),
        ("at", instantJson (f.time.getD s.clock))]) ∧
      RecordsSeen s.settings.threshold f.cards childId (f.time.getD s.clock) s (s.handle q).2
        recorded notSeen := by
  obtain ⟨d, hd, hhandle⟩ := handle_displayed hq hform haccepted
  obtain ⟨store', hstore, rfl⟩ :=
    (display_eq_ok htime (nodup_firstOfEach f.cards childId) (day_of_form hform childId)).mp hd
  rw [hhandle]
  exact ⟨_, _, rfl, recordsSeen_of_displayed htime hstore⟩

/-! ## A card that is named twice -/

/-- The cards were displayed to the child at the time of the service. -/
def displaysOf (childId : String) (cards : List Json) : Request where
  method := "POST"
  path := "/insights/" ++ childId ++ "/cards/displayed"
  query := []
  payload := .value (.obj [("cards", .arr cards)])

/-- One card was on screen for a second, and another one has no time. -/
def oneSeen : Request := displaysOf "c1" [
  .obj [("template_id", .str "goal_stalled"), ("visible_seconds", .whole 1)],
  .obj [("template_id", .str "goal_at_risk")]]

theorem oneSeen_form : ∃ f,
    oneSeen.form oneChild.settings.bodyDepth DisplayedForm.check = .ok f ∧ f.time = none ∧
      ∃ d, IsFirst f.cards "c1" d ∧ d.counts oneChild.settings.threshold = true ∧
        d.templateId = "goal_at_risk" := by
  have hform : (oneSeen.form oneChild.settings.bodyDepth DisplayedForm.check).toOption.any fun f =>
      f.time.isNone &&
        (f.cards.find? fun e => (e.shown "c1").id == .ofString "goal_at_risk").any fun d =>
          (d.shown "c1").id == .ofString "goal_at_risk" && d.counts oneChild.settings.threshold &&
            d.templateId == "goal_at_risk" := by
    decide +kernel
  cases hread : oneSeen.form oneChild.settings.bodyDepth DisplayedForm.check with
  | error reply => simp [hread, Except.toOption] at hform
  | ok f =>
    rw [hread] at hform
    obtain ⟨htime, hfirst⟩ := Bool.and_eq_true_iff.mp hform
    obtain ⟨d, hfound, hd⟩ := (Option.any_eq_true _ _).mp hfirst
    simp only [Bool.and_eq_true, beq_iff_eq] at hd
    refine ⟨f, rfl, Option.isNone_iff_eq_none.mp htime, d, ?_, hd.1.2, hd.2⟩
    unfold IsFirst
    rw [hd.1.1]
    exact hfound

/-- The card that was on screen for a second is not recorded, and the other one is. -/
theorem displayed_records_first_seen_oneSeen :
    ∃ f recorded notSeen, oneSeen.form oneChild.settings.bodyDepth DisplayedForm.check = .ok f ∧
      RecordsSeen oneChild.settings.threshold f.cards "c1" .epoch oneChild
        (oneChild.handle oneSeen).2 recorded notSeen ∧
      "goal_at_risk" ∈ recorded := by
  obtain ⟨f, hform, htime, hcard⟩ := oneSeen_form
  have hsupported : (f.time.getD oneChild.clock).Supported := by
    rw [htime]
    decide
  obtain ⟨recorded, notSeen, -, hseen⟩ :=
    @displayed_records_first_seen oneChild oneSeen "c1" f (by decide +kernel) hform
      (by decide +kernel) hsupported
  rw [htime] at hseen
  exact ⟨f, recorded, notSeen, hform, hseen, (hseen.seen _).mpr hcard⟩

/-- The card was on screen for a second, and it is named once more without a time. -/
def seenBehind : Request := displaysOf "c1" [
  .obj [("template_id", .str "goal_stalled"), ("visible_seconds", .whole 1)],
  .obj [("template_id", .str "goal_stalled")]]

/-- A card that counts as seen is not recorded behind one of its id that does not. -/
theorem seen_card_left_out :
    ¬ ∀ (s : Server) (q : Request) (childId : String) (f : DisplayedForm),
      q.GoesTo (.displayed childId) → q.form s.settings.bodyDepth DisplayedForm.check = .ok f →
      (s.handle q).1.status = 200 → (f.time.getD s.clock).Supported →
      ∀ d ∈ f.cards, d.counts s.settings.threshold = true →
        (s.handle q).2.shown? (d.templateId, childId) = some (f.time.getD s.clock) := by
  intro hall
  have hform : (seenBehind.form oneChild.settings.bodyDepth DisplayedForm.check).toOption.any
      fun f => f.time.isNone && f.cards.any fun d =>
        d.counts oneChild.settings.threshold && d.templateId == "goal_stalled" := by
    decide +kernel
  have hnone : (oneChild.handle seenBehind).2.shown? ("goal_stalled", "c1") = none := by
    decide +kernel
  cases hread : seenBehind.form oneChild.settings.bodyDepth DisplayedForm.check with
  | error reply => simp [hread, Except.toOption] at hform
  | ok f =>
    rw [hread] at hform
    obtain ⟨htime, hcards⟩ := Bool.and_eq_true_iff.mp hform
    obtain ⟨d, hd, hcounts⟩ := List.any_eq_true.mp hcards
    obtain ⟨hcounts, htemplate⟩ := Bool.and_eq_true_iff.mp hcounts
    have hsupported : (f.time.getD oneChild.clock).Supported := by
      rw [Option.isNone_iff_eq_none.mp htime]
      decide
    have hshown := hall oneChild seenBehind "c1" f (by decide +kernel) hread (by decide +kernel)
      hsupported d hd hcounts
    rw [beq_iff_eq.mp htemplate, hnone] at hshown
    cases hshown

end Server

end Service

end MomentInsights
