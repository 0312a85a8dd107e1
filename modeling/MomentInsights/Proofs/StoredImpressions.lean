-- What a tracker records is stored. A recording that succeeds leaves a record for each card
-- that it marks, just where the store keeps displays of that time. A recording that fails
-- stores nothing, and yet the cards that it tried to display stay marked: no later call
-- records them, until the tracker is reset.
import MomentInsights.Proofs.ImpressionCalls
import MomentInsights.Proofs.Nearest
import MomentInsights.Proofs.RepeatedWrites

namespace MomentInsights

open Cooldown (Store Record Periods decode)

/-! ## Displays of cards -/

/-- The text of the store holds that the pair was shown at the time. -/
def Cooldown.Store.Holding (s : Store) (pair : String × String) (time : Instant) : Prop :=
  ∃ rs, decode s.periods s.room s.text = .ok rs ∧
    Store.find? rs pair.1 pair.2 = some (Record.ofPair pair time)

/-- A display at the time is stored: its rest has an end, and its record is not old at once. -/
structure Cooldown.Periods.Keeps (p : Periods) (time : Instant) : Prop where
  hasEnd : p.hasEnd time = true
  young : time.back p.retention < time

/-- Those are all times but the first one and those of the last three days. -/
theorem keeps_standard {time : Instant} : Periods.standard.Keeps time ↔
    0 < time.micros ∧ time.micros + 3 * Duration.dayMicros < Instant.count := by
  have hend : Periods.standard.hasEnd time = true ↔
      time.micros + 3 * Duration.dayMicros < Instant.count := by
    unfold Periods.hasEnd Instant.add?
    rw [Option.isSome_iff_exists]
    constructor
    · rintro ⟨ends, hends⟩
      have hmicros : (time.micros : Int) + (3 * Duration.dayMicros : Nat) = ends.micros :=
        Instant.ofMicros?_eq_some.mp hends
      have hrange := ends.inRange
      change time.micros + 3 * Duration.dayMicros < 315537897600000000
      omega
    · intro hrange
      exact ⟨⟨time.micros + 3 * Duration.dayMicros, hrange⟩, Instant.ofMicros?_eq_some.mpr rfl⟩
  have hyoung : time.back Periods.standard.retention < time ↔ 0 < time.micros := by
    have hback : (time.back Periods.standard.retention).micros =
        time.micros - 30 * Duration.dayMicros := time.back_days 30
    have hday : Duration.dayMicros = 86400000000 := rfl
    change (time.back Periods.standard.retention).micros < time.micros ↔ _
    omega
  constructor
  · intro h
    exact ⟨hyoung.mp h.young, hend.mp h.hasEnd⟩
  · rintro ⟨hpositive, hrange⟩
    exact ⟨hend.mpr hrange, hyoung.mpr hpositive⟩

/-- A display at the time fails: the time is no instant in UTC, or its rest has an end, so
that it would be stored, and the text cannot be read or nothing tells what is old in it. -/
def Cooldown.Store.Refuses (s : Store) (now : Timestamp) (f : Failure) : Prop :=
  now.utc = .error f ∨ ∃ time, now.utc = .ok time ∧ s.periods.hasEnd time = true ∧
    (decode s.periods s.room s.text = .error f ∨
      (∃ rs, decode s.periods s.room s.text = .ok rs) ∧ s.periods.retention.neg = .error f)

section Displays

variable {store store' : Store} {pairs : List (String × String)} {now : Timestamp}
  {pair : String × String}

/-- No text holds a display at a time whose rest has no end. -/
theorem hasEnd_of_holding {time : Instant} (h : store.Holding pair time) :
    store.periods.hasEnd time = true := by
  obtain ⟨rs, hdecode, hfound⟩ := h
  exact (Cooldown.readsBack_of_decode hdecode _ (List.mem_of_find?_eq_some hfound)).hasEnd

/-- A display that succeeds is stored just where the store keeps displays at the time. -/
theorem holding_of_displayed (h : (Engine.recordDisplayed pairs store now).1 = .ok ())
    (hpair : pair ∈ pairs) : ∃ time, now.utc = .ok time ∧
      ((Engine.recordDisplayed pairs store now).2.Holding pair time ↔
        store.periods.Keeps time) := by
  have hsome : pairs.isEmpty = false := List.isEmpty_eq_false_iff.mpr (List.ne_nil_of_mem hpair)
  cases hutc : now.utc with
  | error f =>
    unfold Engine.recordDisplayed at h
    rw [hsome, hutc] at h
    cases h
  | ok time =>
    refine ⟨time, rfl, ?_⟩
    rw [Engine.recordDisplayed_of_utc hutc, hsome, if_neg Bool.false_ne_true] at h ⊢
    cases hend : store.periods.hasEnd time with
    | false =>
      have hskipped : store.recordMany pairs time = (.ok (), store) := by
        unfold Store.recordMany
        rw [hend]
        rfl
      rw [hskipped]
      constructor
      · intro hholding
        cases hend.symm.trans (hasEnd_of_holding hholding)
      · intro hkeeps
        cases hend.symm.trans hkeeps.hasEnd
    | true =>
      have hrecord : store.record ⟨pairs, time⟩ = .ok (store.recordMany pairs time).2 := by
        unfold Store.record
        dsimp only
        rw [h]
        rfl
      obtain ⟨rs, hdecode, -, hsaved⟩ := (Store.record_written hend).mp hrecord
      have hread : decode store.periods store.room
          (some (Cooldown.encode (Store.kept store.periods rs pairs time))) =
            .ok (Store.kept store.periods rs pairs time) :=
        Cooldown.decode_encode
          (Store.readsBack_of_mem_kept (Cooldown.readsBack_of_decode hdecode) hend) store.room
      rw [hsaved]
      constructor
      · rintro ⟨rs', hdecode', hfound⟩
        cases hread.symm.trans hdecode'
        have hyoung := (List.mem_filter.mp (List.mem_of_find?_eq_some hfound)).2
        exact ⟨hend, of_decide_eq_true hyoung⟩
      · rintro ⟨-, hyoung⟩
        exact ⟨_, hread, Store.find?_kept hpair hyoung⟩

/-- A display that fails stores nothing. -/
theorem decode_of_failed {f : Failure} (h : (Engine.recordDisplayed pairs store now).1 = .error f) :
    decode (Engine.recordDisplayed pairs store now).2.periods
        (Engine.recordDisplayed pairs store now).2.room
        (Engine.recordDisplayed pairs store now).2.text =
      decode store.periods store.room store.text := by
  revert h
  unfold Engine.recordDisplayed
  split
  · exact fun _ => rfl
  · split
    · unfold Ranking.recordShown Store.recordMany
      split
      · exact fun _ => rfl
      · dsimp only
        split
        · exact fun h => by cases h
        · exact fun _ => Store.decode_locked store
    · exact fun _ => rfl

/-- A display fails just for those reasons. -/
theorem recordDisplayed_error_iff {f : Failure} (hpairs : pairs ≠ []) :
    (Engine.recordDisplayed pairs store now).1 = .error f ↔ store.Refuses now f := by
  unfold Store.Refuses
  cases hutc : now.utc with
  | error e => simp [Engine.recordDisplayed, hpairs, hutc]
  | ok time =>
    rw [Engine.recordDisplayed_of_utc hutc, if_neg (by simp [hpairs])]
    cases hend : store.periods.hasEnd time with
    | false => simp [Store.recordMany, hend]
    | true =>
      unfold Store.recordMany
      simp only [hend, Bool.not_true, Bool.false_eq_true, if_false]
      rw [Store.decode_locked, Store.locked_periods]
      cases decode store.periods store.room store.text with
      | error e => simp [hend]
      | ok rs => cases hneg : store.periods.retention.neg <;> simp [Store.recorded, hend, hneg]

end Displays

namespace Impressions

/-! ## Recordings of cards -/

/-- The cards that a command asks to record. -/
def Command.cards : Command → List ShownCard
  | .interacted c => [c]
  | .recordDue cards => cards
  | .recordAll cards => cards
  | _ => []

section Recordings

variable {s s' : Impressions} {call : Call} {c d : ShownCard} {t : Tracker} {now : Timestamp}

theorem due_eq {cards due : List ShownCard} (h : t.due cards now = .ok due) :
    due = (t.unrecorded cards).filter fun c => (t.hasMet c now).toOption.getD false := by
  have hmet : ∀ c ∈ t.unrecorded cards,
      t.hasMet (id c) now = .ok ((t.hasMet c now).toOption.getD false) := by
    intro c hc
    cases hresult : t.hasMet c now with
    | ok met => exact hresult
    | error f =>
      have hfails := Outcome.filterM_eq_error (fun c _ => t.hasMet_failsOnly c now)
        ⟨c, hc, f, hresult⟩
      cases h.symm.trans hfails
  have hfilter := Outcome.filterM_map (f := fun c => t.hasMet c now) (g := id) _ hmet
  rw [List.map_id, List.map_id] at hfilter
  exact Except.ok.inj (h.symm.trans hfilter)

/-- Of the cards that a command asks for, those with the id of one that is displayed are
displayed too. -/
theorem mem_displayed (hc : c ∈ s.displayed call) :
    c ∈ call.command.cards ∧
      ∀ d ∈ call.command.cards, d.id = c.id → d ∈ s.displayed call := by
  have hunrecorded {cards : List ShownCard} (hc : c ∈ s.tracker.unrecorded cards) {d : ShownCard}
      (hd : d ∈ cards) (hid : d.id = c.id) : d ∈ s.tracker.unrecorded cards := by
    have hnew := (Tracker.unrecorded_spec hc).2
    rw [← Tracker.isRecorded_of_id hid] at hnew
    exact List.mem_filter.mpr ⟨hd, by rw [hnew]; rfl⟩
  obtain ⟨command, now⟩ := call
  cases command with
  | interacted e => exact ⟨(Tracker.unrecorded_spec hc).1, fun d hd hid => hunrecorded hc hd hid⟩
  | recordAll cards => exact ⟨(Tracker.unrecorded_spec hc).1, fun d hd hid => hunrecorded hc hd hid⟩
  | recordDue cards =>
    unfold displayed at hc ⊢
    dsimp only at hc ⊢
    cases hdue : s.tracker.due cards now with
    | error f =>
      rw [hdue] at hc
      cases hc
    | ok due =>
      rw [hdue, due_eq hdue] at hc
      obtain ⟨hnew, hmet⟩ := List.mem_filter.mp hc
      refine ⟨(Tracker.unrecorded_spec hnew).1, ?_⟩
      intro d hd hid
      have hsame : s.tracker.hasMet d now = s.tracker.hasMet c now :=
        Tracker.hasMet_of_id hid now
      rw [due_eq hdue]
      exact List.mem_filter.mpr ⟨hunrecorded hnew hd hid, by rw [hsame]; exact hmet⟩
  | _ => cases hc

theorem done_of_answer {α : Type} (done : Except Failure Unit) (answer : α) :
    (∀ answer', (done.map fun _ => answer) = .ok answer' → done = .ok ()) ∧
      ∀ f, (done.map fun _ => answer) = .error f → done = .error f := by
  cases done with
  | ok _ => exact ⟨fun _ _ => rfl, fun f h => by cases h⟩
  | error f => exact ⟨fun _ h => (by cases h), fun f h => by cases h; rfl⟩

theorem perform_recordAll (s : Impressions) (cards : List ShownCard) (now : Timestamp) :
    (s.perform ⟨.recordAll cards, now⟩).1 =
      (Engine.recordDisplayed ((s.tracker.unrecorded cards).map ShownCard.pair) s.store now).1.map
        fun _ => s.tracker.unrecorded cards := rfl

/-- A recording succeeds and fails with its display, if it comes to that. -/
theorem perform_recording (h : call.records = true) :
    (∀ answer, (s.perform call).1 = .ok answer →
      (Engine.recordDisplayed ((s.displayed call).map ShownCard.pair) s.store call.now).1 =
        .ok ()) ∧
      ∀ f, (s.perform call).1 = .error f →
        (Engine.recordDisplayed ((s.displayed call).map ShownCard.pair) s.store call.now).1 =
          .error f ∨ s.displayed call = [] := by
  have hanswered (cards answer : List ShownCard) := done_of_answer
    (Engine.recordDisplayed (cards.map ShownCard.pair) s.store call.now).1 answer
  obtain ⟨command, now⟩ := call
  cases command with
  | interacted e =>
    obtain ⟨hok, hfailed⟩ := hanswered (s.tracker.unrecorded [e]) []
    exact ⟨hok, fun f hf => Or.inl (hfailed f hf)⟩
  | recordAll cards =>
    obtain ⟨hok, hfailed⟩ := hanswered (s.tracker.unrecorded cards) (s.tracker.unrecorded cards)
    rw [perform_recordAll]
    exact ⟨hok, fun f hf => Or.inl (hfailed f hf)⟩
  | recordDue cards =>
    unfold perform displayed recordDue
    dsimp only
    cases s.tracker.due cards now with
    | error f => exact ⟨fun _ hok => (by cases hok), fun _ _ => Or.inr rfl⟩
    | ok due =>
      obtain ⟨hok, hfailed⟩ := hanswered due due
      exact ⟨hok, fun f hf => Or.inl (hfailed f hf)⟩
  | _ => cases h

/-- A call that displays cards fails with the display. -/
theorem perform_error_iff {f : Failure} (hsome : s.displayed call ≠ []) :
    (s.perform call).1 = .error f ↔ s.store.Refuses call.now f := by
  have hrecords : call.records = true := by
    by_contra hnot
    exact hsome (displayed_eq_nil (eq_false_of_ne_true hnot))
  obtain ⟨hok, hfailed⟩ := perform_recording (s := s) hrecords
  have hpairs : (s.displayed call).map ShownCard.pair ≠ [] := by simpa using hsome
  rw [← recordDisplayed_error_iff hpairs]
  constructor
  · intro herror
    exact (hfailed f herror).resolve_right hsome
  · intro herror
    cases hanswer : (s.perform call).1 with
    | ok answer =>
      rw [hok answer hanswer] at herror
      cases herror
    | error f' =>
      rw [(hfailed f' hanswer).resolve_right hsome] at herror
      cases herror
      rfl

/-- What a call displays is marked, and its time on screen forgotten, also where the call
fails. -/
theorem marked_of_displayed (hc : c ∈ s.displayed call) :
    (s.perform call).2.tracker.isRecorded c = true ∧
      (s.perform call).2.tracker.since? c = none := by
  have hrecords : call.records = true := by
    by_contra hnot
    rw [displayed_eq_nil (eq_false_of_ne_true hnot)] at hc
    cases hc
  have hany : (s.displayed call).any (c.id == ·.id) = true :=
    List.any_eq_true.mpr ⟨c, hc, beq_self_eq_true _⟩
  rw [perform_records hrecords, Tracker.isRecorded_foldl_mark, Tracker.since?_foldl_mark, hany]
  exact ⟨rfl, rfl⟩

/-- A card is recorded by a call that displays it. -/
theorem exists_displayed (hnew : s.tracker.isRecorded c = false)
    (hrecorded : (s.perform call).2.tracker.isRecorded c = true) :
    call.records = true ∧ ∃ d ∈ s.displayed call, c.id = d.id := by
  cases hrecords : call.records with
  | false =>
    have hbefore : s.tracker.isRecorded c = true :=
      List.contains_iff_mem.mpr
        ((perform_moves hrecords).1.recorded (List.contains_iff_mem.mp hrecorded))
    rw [hnew] at hbefore
    cases hbefore
  | true =>
    rw [perform_records hrecords, Tracker.isRecorded_foldl_mark, hnew, Bool.or_false,
      List.any_eq_true] at hrecorded
    obtain ⟨d, hd, hid⟩ := hrecorded
    exact ⟨rfl, d, hd, beq_iff_eq.mp hid⟩

/-- Of a tracker that was just made, any card can be recorded. -/
theorem recordAll_fresh {store : Store} (threshold : Number)
    (h : (Engine.recordDisplayed [c.pair] store now).1 = .ok ()) :
    ((fresh threshold store).perform ⟨.recordAll [c], now⟩).1 = .ok [c] ∧
      ((fresh threshold store).perform ⟨.recordAll [c], now⟩).2.tracker.isRecorded c = true := by
  have hnew : (fresh threshold store).tracker.unrecorded [c] = [c] :=
    Tracker.unrecorded_of_none fun _ _ => rfl
  constructor
  · rw [perform_recordAll, hnew, List.map_singleton]
    exact congrArg (Except.map fun _ => [c]) h
  · have hdisplayed : (fresh threshold store).displayed ⟨.recordAll [c], now⟩ = [c] := hnew
    rw [perform_records rfl, Tracker.isRecorded_foldl_mark, hdisplayed]
    simp

end Recordings

/-! ## A card that is recorded and not stored -/

/-- A day before the end of time. -/
def lastDay : Instant := Instant.last.back (Duration.days 1)

/-- The end of the card's rest cannot be told. The card is recorded, and nothing is stored. -/
theorem late_card_not_stored :
    ¬ ∀ (s : Impressions) (call : Call) (answer : List ShownCard) (c : ShownCard),
      (s.perform call).1 = .ok answer → c ∈ call.command.cards →
        s.tracker.isRecorded c = false → (s.perform call).2.tracker.isRecorded c = true →
          ∃ time, call.now.utc = .ok time ∧ (s.perform call).2.store.Holding c.pair time := by
  intro hall
  have hdisplay : Engine.recordDisplayed [stalledCard.pair] {} (Timestamp.ofInstant lastDay) =
      (.ok (), {}) := by
    rw [Engine.recordDisplayed_of_utc (Timestamp.utc_ofInstant lastDay)]
    have hend : Periods.standard.hasEnd lastDay = false := by decide +kernel
    unfold Store.recordMany
    rw [hend]
    rfl
  obtain ⟨hok, hrecorded⟩ := recordAll_fresh Tracker.standardThreshold (congrArg Prod.fst hdisplay)
  have hstore := (perform_store (fresh Tracker.standardThreshold {})
    ⟨.recordAll [stalledCard], Timestamp.ofInstant lastDay⟩).trans (congrArg Prod.snd hdisplay)
  obtain ⟨time, -, rs, hdecode, hfind⟩ :=
    hall _ _ _ stalledCard hok List.mem_cons_self rfl hrecorded
  rw [hstore] at hdecode
  cases hdecode
  cases hfind

/-! ## Cards of a recording that fails -/

/-- Midnight at the start of time, five hours ahead of UTC. -/
def beforeTime : Timestamp := ⟨Instant.first, some ⟨5 * 3600000000⟩⟩

/-- Nothing is stored at a time that is no instant in UTC, but the card is recorded. -/
theorem failed_card_recorded :
    ¬ ∀ (s : Impressions) (call : Call) (f : Failure), (s.perform call).1 = .error f →
      ∀ c, (s.perform call).2.tracker.isRecorded c = s.tracker.isRecorded c ∧
        (s.perform call).2.tracker.since? c = s.tracker.since? c := by
  intro hall
  have hdisplayed : (fresh Tracker.standardThreshold {}).displayed
      ⟨.recordAll [stalledCard], beforeTime⟩ = [stalledCard] := by decide +kernel
  have hfailed : ((fresh Tracker.standardThreshold {}).perform
      ⟨.recordAll [stalledCard], beforeTime⟩).1 = .error .dateOutOfRange :=
    (perform_error_iff (by simp [hdisplayed])).mpr (Or.inl (by decide +kernel))
  obtain ⟨hsame, -⟩ := hall _ _ _ hfailed stalledCard
  have hmarked := (marked_of_displayed (hdisplayed ▸ List.mem_singleton_self stalledCard)).1
  rw [hsame] at hmarked
  cases hmarked

/-- A failed call changes nothing about the cards that it did not try to display. -/
theorem unchanged_of_not_displayed {s : Impressions} {call : Call} {f : Failure}
    (hfailed : (s.perform call).1 = .error f) {c : ShownCard}
    (hother : ∀ d ∈ s.displayed call, d.id ≠ c.id) :
    (s.perform call).2.tracker.isRecorded c = s.tracker.isRecorded c ∧
      (s.perform call).2.tracker.since? c = s.tracker.since? c := by
  cases hrecords : call.records with
  | false =>
    rw [(perform_moves hrecords).2 f hfailed]
    exact ⟨rfl, rfl⟩
  | true =>
    have hany : (s.displayed call).any (c.id == ·.id) = false := by
      rw [List.any_eq_false]
      intro d hd
      rw [beq_iff_eq]
      exact fun hid => hother d hd hid.symm
    rw [perform_records hrecords, Tracker.isRecorded_foldl_mark, Tracker.since?_foldl_mark, hany]
    exact ⟨rfl, rfl⟩

/-- It leaves the tracker as it was just when it did not try to display any. -/
theorem unchanged_iff {s : Impressions} {call : Call} {f : Failure}
    (hfailed : (s.perform call).1 = .error f) :
    (∀ c, (s.perform call).2.tracker.isRecorded c = s.tracker.isRecorded c ∧
      (s.perform call).2.tracker.since? c = s.tracker.since? c) ↔ s.displayed call = [] := by
  constructor
  · intro hsame
    rw [List.eq_nil_iff_forall_not_mem]
    intro c hc
    have hmarked := (marked_of_displayed hc).1
    rw [(hsame c).1, displayed_new hc] at hmarked
    cases hmarked
  · intro hnone c
    apply unchanged_of_not_displayed hfailed
    rw [hnone]
    exact fun d hd => by cases hd

theorem decode_of_failed_call {s : Impressions} {call : Call} {f : Failure}
    (hfailed : (s.perform call).1 = .error f) :
    decode (s.perform call).2.store.periods (s.perform call).2.store.room
        (s.perform call).2.store.text =
      decode s.store.periods s.store.room s.store.text := by
  rw [perform_store]
  by_cases hnone : s.displayed call = []
  · rw [hnone]
    rfl
  · have hpairs : (s.displayed call).map ShownCard.pair ≠ [] := by simpa using hnone
    exact decode_of_failed
      ((recordDisplayed_error_iff hpairs).mpr ((perform_error_iff hnone).mp hfailed))

/-! ## What is recorded is stored -/

/-- A call that succeeds stores each card that it records, with what the clock shows, just
where the store keeps displays of that time. A call that tries to display cards fails just
where the store refuses them. It stores nothing then, and yet it has recorded those cards
and forgotten their times, so a call that fails leaves the tracker as it was just when it
did not try to display any. -/
theorem recorded_is_stored (s : Impressions) (call : Call) :
    (∀ answer, (s.perform call).1 = .ok answer → ∀ c, s.tracker.isRecorded c = false →
      (s.perform call).2.tracker.isRecorded c = true →
        (∃ d ∈ call.command.cards, d.id = c.id) ∧ ∃ time, call.now.utc = .ok time ∧
          ∀ d ∈ call.command.cards, d.id = c.id →
            ((s.perform call).2.store.Holding d.pair time ↔ s.store.periods.Keeps time)) ∧
      (s.displayed call ≠ [] → ∀ f,
        (s.perform call).1 = .error f ↔ s.store.Refuses call.now f) ∧
      ∀ f, (s.perform call).1 = .error f →
        decode (s.perform call).2.store.periods (s.perform call).2.store.room
            (s.perform call).2.store.text =
          decode s.store.periods s.store.room s.store.text ∧
        (∀ c ∈ s.displayed call, s.tracker.isRecorded c = false ∧
          (s.perform call).2.tracker.isRecorded c = true ∧
          (s.perform call).2.tracker.since? c = none) ∧
        (∀ c, (∀ d ∈ s.displayed call, d.id ≠ c.id) →
          (s.perform call).2.tracker.isRecorded c = s.tracker.isRecorded c ∧
            (s.perform call).2.tracker.since? c = s.tracker.since? c) ∧
        ((∀ c, (s.perform call).2.tracker.isRecorded c = s.tracker.isRecorded c ∧
          (s.perform call).2.tracker.since? c = s.tracker.since? c) ↔ s.displayed call = []) := by
  refine ⟨?_, fun hsome f => perform_error_iff hsome, ?_⟩
  · intro answer hok c hnew hrecorded
    obtain ⟨hrecords, e, he, hid⟩ := exists_displayed hnew hrecorded
    obtain ⟨hlisted, hsame⟩ := mem_displayed he
    have hdisplay := (perform_recording hrecords).1 answer hok
    obtain ⟨time, hutc, -⟩ := holding_of_displayed hdisplay (List.mem_map_of_mem he)
    refine ⟨⟨e, hlisted, hid.symm⟩, time, hutc, ?_⟩
    intro d hd hdid
    have hdisplayed := hsame d hd (hdid.trans hid)
    obtain ⟨time', hutc', hholding⟩ :=
      holding_of_displayed hdisplay (List.mem_map_of_mem hdisplayed)
    cases hutc.symm.trans hutc'
    rw [perform_store]
    exact hholding
  · intro f hfailed
    refine ⟨decode_of_failed_call hfailed, ?_, fun c => unchanged_of_not_displayed hfailed,
      unchanged_iff hfailed⟩
    intro c hc
    exact ⟨displayed_new hc, marked_of_displayed hc⟩

/-- A card that is recorded at the start of 1970 is stored with that time, and one that is to
be recorded before time starts is not, though the call that fails has recorded it. -/
theorem recorded_is_stored_stalledCard :
    ((fresh Tracker.standardThreshold {}).perform
        ⟨.recordAll [stalledCard], Timestamp.ofInstant Instant.epoch⟩).2.store.Holding
          stalledCard.pair Instant.epoch ∧
      ((fresh Tracker.standardThreshold {}).perform ⟨.recordAll [stalledCard], beforeTime⟩).1 =
        .error .dateOutOfRange ∧
      ((fresh Tracker.standardThreshold {}).perform
        ⟨.recordAll [stalledCard], beforeTime⟩).2.tracker.isRecorded stalledCard = true := by
  have hdisplay : (Engine.recordDisplayed [stalledCard.pair] {}
      (Timestamp.ofInstant Instant.epoch)).1 = .ok () := by
    have hback : Periods.standard.retention.neg = .ok ⟨-Periods.standard.retention.micros⟩ := by
      decide +kernel
    have hwrite := Store.recordMany_of_decode (s := {}) hback (Cooldown.decode_none _ _)
      [stalledCard.pair] Instant.epoch
    rw [Engine.recordDisplayed_of_utc (Timestamp.utc_ofInstant Instant.epoch)]
    exact congrArg Prod.fst hwrite
  have hkeeps : Periods.standard.Keeps Instant.epoch := keeps_standard.mpr (by decide +kernel)
  obtain ⟨hok, hrecorded⟩ := recordAll_fresh Tracker.standardThreshold hdisplay
  obtain ⟨-, time, hutc, hstored⟩ :=
    (recorded_is_stored _ _).1 [stalledCard] hok stalledCard rfl hrecorded
  cases (Timestamp.utc_ofInstant Instant.epoch).symm.trans hutc
  have hdisplayed : (fresh Tracker.standardThreshold {}).displayed
      ⟨.recordAll [stalledCard], beforeTime⟩ = [stalledCard] := by decide +kernel
  obtain ⟨-, hfails, hmarks⟩ := recorded_is_stored (fresh Tracker.standardThreshold {})
    ⟨.recordAll [stalledCard], beforeTime⟩
  have hfailed := (hfails (by simp [hdisplayed]) .dateOutOfRange).mpr
    (Or.inl (by decide +kernel))
  obtain ⟨-, hmarked, -⟩ := hmarks .dateOutOfRange hfailed
  refine ⟨(hstored stalledCard List.mem_cons_self rfl).mpr hkeeps, hfailed, ?_⟩
  exact (hmarked stalledCard (hdisplayed ▸ List.mem_singleton_self stalledCard)).2.1

end Impressions

end MomentInsights
