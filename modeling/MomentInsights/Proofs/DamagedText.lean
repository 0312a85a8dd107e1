-- Stored text that no store wrote: no JSON, no array, items that are no records.
-- Each item is read by itself, and one that is no record is passed over. Two kinds of items
-- break this: a number of seconds that fits a word, of a year that fits no clock, and
-- what nests too deep for the message that tells what was passed over. A text with such an
-- item cannot be read, and a command that reads it fails.
import MomentInsights.Proofs.CooldownRuns
import MomentInsights.Proofs.Evaluation
import MomentInsights.Proofs.JoinedText

namespace MomentInsights

/-! ## Numbers of seconds -/

namespace Unix

/-- The whole seconds, after rounding to microseconds. -/
def wholeSeconds? : Number → Option Int
  | .whole n => some n
  | .real x => (split? x).map Prod.fst

/-- The seconds fit a word, and their year fits no clock. -/
def PastClock (n : Number) : Prop :=
  ∃ seconds, wholeSeconds? n = some seconds ∧ fitsWord seconds = true ∧
    (seconds < clockLimits.1 ∨ clockLimits.2 ≤ seconds)

theorem ofSeconds_eq (seconds : Int) (micros : Nat) :
    (seconds < clockLimits.1 ∨ clockLimits.2 ≤ seconds) ∧
        ofSeconds seconds micros = .error .clockOverflow ∨
      ¬ (seconds < clockLimits.1 ∨ clockLimits.2 ≤ seconds) ∧
        ∃ t, ofSeconds seconds micros = .ok t := by
  unfold ofSeconds
  by_cases h : seconds < clockLimits.1 ∨ clockLimits.2 ≤ seconds
  · left
    exact ⟨h, if_pos h⟩
  · right
    exact ⟨h, _, if_neg h⟩

/-- A number of seconds fails just where it is past the clock. -/
theorem ofNumber_eq (n : Number) :
    PastClock n ∧ ofNumber n = .error .clockOverflow ∨ ¬ PastClock n ∧ ∃ t, ofNumber n = .ok t := by
  have hparts : ∃ parts : Option (Int × Nat), wholeSeconds? n = parts.map Prod.fst ∧
      ofNumber n = parts.elim (.ok none) fun p =>
        if fitsWord p.1 then ofSeconds p.1 p.2 else .ok none := by
    cases n with
    | whole n => exact ⟨some (n, 0), rfl, rfl⟩
    | real x =>
      refine ⟨split? x, rfl, ?_⟩
      unfold ofNumber
      dsimp only
      cases split? x <;> rfl
  obtain ⟨parts, hseconds, hof⟩ := hparts
  unfold PastClock
  rw [hseconds, hof]
  cases parts with
  | none => simp
  | some parts =>
    obtain ⟨seconds, micros⟩ := parts
    cases hfits : fitsWord seconds with
    | false => simp [hfits]
    | true => simpa [hfits] using ofSeconds_eq seconds micros

end Unix

namespace Cooldown

/-! ## Items -/

/-- The items of the array that the text writes; any other text has none. -/
def storedItems (room : Room) (text : Option String) : List Json :=
  match text.map fun s : String => Json.read room.text s with
  | some (.ok (.arr items)) => items
  | _ => []

/-- The template, the child and the time that an item names, if it names all three. -/
def named? (item : Json) : Option (WideText × WideText × Json) := do
  let templateId ← (item.member? "templateId").bind Json.wideText?
  let childId ← (item.member? "childId").bind Json.wideText?
  let time ← item.member? "lastShownAt"
  return (templateId, childId, time)

/-- The value is of no kind that times are: null, an array or an object. -/
inductive NoTime : Json → Prop
  | null : NoTime .null
  | arr (xs : List Json) : NoTime (.arr xs)
  | obj (ms : List (String × Json)) : NoTime (.obj ms)

/-- The time stops the reading: it is a number of seconds past the clock, or it is no time
and nests too deep for the message that shows it. -/
inductive StopsTime (room : Room) : Json → Failure → Prop
  | pastClock {n : Number} (h : Unix.PastClock n) : StopsTime room (.num n) .clockOverflow
  | tooDeep {time : Json} (h : NoTime time) (hdeep : room.time < time.shownDepth) :
    StopsTime room time .tooDeepToShow

/-- The item is the record, whose rest has an end. -/
def Tells (p : Periods) (room : Room) (item : Json) (r : Record) : Prop :=
  ∃ time, named? item = some (r.templateId, r.childId, time) ∧
    decodeTime room time = .ok (some r.shown) ∧ p.hasEnd r.shown = true

/-- The item stops the reading: by its time, or because it is passed over and nests too deep
for the message that shows it. -/
inductive Stops (p : Periods) (room : Room) (item : Json) : Failure → Prop
  | time {templateId childId : WideText} {time : Json} {f : Failure}
    (hnamed : named? item = some (templateId, childId, time)) (h : StopsTime room time f) :
    Stops p room item f
  | tooDeep (hread : ∀ templateId childId time, named? item = some (templateId, childId, time) →
      ∀ f, ¬ StopsTime room time f) (hnone : ∀ r, ¬ Tells p room item r)
    (hdeep : room.item < item.shownDepth) : Stops p room item .tooDeepToShow

/-- The record that an item is, read by itself. -/
def recordOf? (p : Periods) (room : Room) (item : Json) : Option Record :=
  (decodeRecord p room item).toOption.join

section Items

variable {p : Periods} {room : Room} {item time : Json}

/-- A time is read just where it does not stop the reading. -/
theorem decodeTime_eq (room : Room) (time : Json) :
    (∃ f, StopsTime room time f ∧ decodeTime room time = .error f) ∨
      (∀ f, ¬ StopsTime room time f) ∧ ∃ t, decodeTime room time = .ok t := by
  have hother {j : Json} (h : ¬ NoTime j) (hnum : ∀ n, j ≠ .num n) : ∀ f, ¬ StopsTime room j f := by
    rintro f (hpast | ⟨hno, -⟩)
    · exact hnum _ rfl
    · exact h hno
  have hshown {j : Json} (h : NoTime j)
      (hj : decodeTime room j = if room.time < j.shownDepth then .error .tooDeepToShow else .ok none) :
      (∃ f, StopsTime room j f ∧ decodeTime room j = .error f) ∨
        (∀ f, ¬ StopsTime room j f) ∧ ∃ t, decodeTime room j = .ok t := by
    by_cases hdeep : room.time < j.shownDepth
    · exact Or.inl ⟨_, .tooDeep h hdeep, by rw [hj, if_pos hdeep]⟩
    · refine Or.inr ⟨?_, none, by rw [hj, if_neg hdeep]⟩
      rintro f (hpast | ⟨-, hlt⟩)
      · cases h
      · exact hdeep hlt
  cases time with
  | num n =>
    rcases Unix.ofNumber_eq n with ⟨hpast, hfail⟩ | ⟨hnot, hok⟩
    · exact Or.inl ⟨_, .pastClock hpast, hfail⟩
    · refine Or.inr ⟨?_, hok⟩
      rintro f (hpast | ⟨⟨⟩, -⟩)
      exact hnot hpast
  | bool b => exact Or.inr ⟨hother (by rintro ⟨⟩) (by rintro n ⟨⟩), none, rfl⟩
  | str s => exact Or.inr ⟨hother (by rintro ⟨⟩) (by rintro n ⟨⟩), _, rfl⟩
  | wide w => exact Or.inr ⟨hother (by rintro ⟨⟩) (by rintro n ⟨⟩), _, rfl⟩
  | null => exact hshown .null rfl
  | arr xs => exact hshown (.arr xs) rfl
  | obj ms => exact hshown (.obj ms) rfl

theorem decodeRecord_unnamed (h : named? item = none) :
    decodeRecord p room item = passOver room item := by
  unfold named? at h
  unfold decodeRecord
  dsimp only
  generalize (item.member? "templateId").bind Json.wideText? = templateId at h ⊢
  generalize (item.member? "childId").bind Json.wideText? = childId at h ⊢
  generalize item.member? "lastShownAt" = time at h ⊢
  cases templateId with
  | none => rfl
  | some _ =>
    cases childId with
    | none => rfl
    | some _ =>
      cases time with
      | none => rfl
      | some _ => cases h

theorem decodeRecord_named {templateId childId : WideText}
    (h : named? item = some (templateId, childId, time)) :
    decodeRecord p room item = decodeTime room time >>= fun shown? =>
      match shown? with
      | some shown =>
        if p.hasEnd shown then .ok (some ⟨templateId, childId, shown⟩) else passOver room item
      | none => passOver room item := by
  unfold named? at h
  simp only [Option.bind_eq_bind, Option.bind_eq_some_iff, Option.pure_def, Option.some.injEq,
    Prod.mk.injEq] at h
  obtain ⟨t, htemplate, c, hchild, v, htime, rfl, rfl, rfl⟩ := h
  have htext : (item.member? "templateId").bind Json.wideText? = some t ∧
      (item.member? "childId").bind Json.wideText? = some c :=
    ⟨Option.bind_eq_some_iff.mpr htemplate, Option.bind_eq_some_iff.mpr hchild⟩
  unfold decodeRecord
  dsimp only
  rw [htext.1, htext.2, htime]
  dsimp only
  cases decodeTime room v with
  | error f => rfl
  | ok shown? => cases shown? <;> rfl

/-- An item is a record, it is passed over, or its time stops the reading. -/
theorem decodeRecord_cases (p : Periods) (room : Room) (item : Json) :
    (∃ r, Tells p room item r ∧ decodeRecord p room item = .ok (some r)) ∨
      ((∀ r, ¬ Tells p room item r) ∧
        (∀ templateId childId time, named? item = some (templateId, childId, time) →
          ∀ f, ¬ StopsTime room time f) ∧ decodeRecord p room item = passOver room item) ∨
      ∃ templateId childId time f, named? item = some (templateId, childId, time) ∧
        StopsTime room time f ∧ decodeRecord p room item = .error f := by
  cases hnamed : named? item with
  | none =>
    refine Or.inr (Or.inl ⟨?_, by rintro _ _ _ ⟨⟩, decodeRecord_unnamed hnamed⟩)
    rintro r ⟨time, htells, -⟩
    cases hnamed.symm.trans htells
  | some named =>
    obtain ⟨templateId, childId, time⟩ := named
    have hdecode : decodeRecord p room item = _ := decodeRecord_named hnamed
    rcases decodeTime_eq room time with ⟨f, hstops, hfail⟩ | ⟨hnot, shown?, hok⟩
    · rw [hfail] at hdecode
      exact Or.inr (Or.inr ⟨templateId, childId, time, f, rfl, hstops, hdecode⟩)
    · rw [hok, Outcome.ok_bind] at hdecode
      have hpassed (hnone : ∀ shown, shown? = some shown → p.hasEnd shown = false) :
          ∀ r, ¬ Tells p room item r := by
        rintro r ⟨time', htells, hshown, hend⟩
        cases hnamed.symm.trans htells
        cases hok.symm.trans hshown
        rw [hnone _ rfl] at hend
        cases hend
      have hread : ∀ t c v, some (templateId, childId, time) = some (t, c, v) →
          ∀ f, ¬ StopsTime room v f := by
        rintro t c v ⟨⟩
        exact hnot
      cases shown? with
      | none => exact Or.inr (Or.inl ⟨hpassed (by rintro shown ⟨⟩), hread, hdecode⟩)
      | some shown =>
        cases hend : p.hasEnd shown with
        | true =>
          dsimp only at hdecode
          rw [hend, if_pos rfl] at hdecode
          exact Or.inl ⟨⟨templateId, childId, shown⟩, ⟨time, hnamed, hok, hend⟩, hdecode⟩
        | false =>
          dsimp only at hdecode
          rw [hend, if_neg Bool.false_ne_true] at hdecode
          exact Or.inr (Or.inl ⟨hpassed (by rintro _ ⟨⟩; exact hend), hread, hdecode⟩)

end Items

/-- An item stops the reading with its failure, or else is read by itself. -/
theorem decodeRecord_eq (p : Periods) (room : Room) (item : Json) :
    (∃ f, Stops p room item f ∧ decodeRecord p room item = .error f) ∨
      (∀ f, ¬ Stops p room item f) ∧ decodeRecord p room item = .ok (recordOf? p room item) := by
  unfold recordOf?
  rcases decodeRecord_cases p room item with ⟨r, htells, hdecode⟩ | ⟨hnone, hread, hdecode⟩ |
      ⟨templateId, childId, time, f, hnamed, hstops, hdecode⟩
  · refine Or.inr ⟨?_, by rw [hdecode]; rfl⟩
    rintro f (⟨hnamed, hstops⟩ | ⟨-, hnone, -⟩)
    · obtain ⟨time, htells, hshown, -⟩ := htells
      cases htells.symm.trans hnamed
      rcases decodeTime_eq room _ with ⟨f', -, hfail⟩ | ⟨hnot, -⟩
      · cases hshown.symm.trans hfail
      · exact hnot _ hstops
    · exact hnone r htells
  · by_cases hdeep : room.item < item.shownDepth
    · exact Or.inl ⟨_, .tooDeep hread hnone hdeep, by rw [hdecode, passOver, if_pos hdeep]⟩
    · rw [hdecode, passOver, if_neg hdeep]
      refine Or.inr ⟨?_, rfl⟩
      rintro f (⟨hnamed, hstops⟩ | ⟨-, -, hlt⟩)
      · exact hread _ _ _ hnamed _ hstops
      · exact hdeep hlt
  · exact Or.inl ⟨f, .time hnamed hstops, hdecode⟩

theorem recordOf?_eq_some {p : Periods} {room : Room} {item : Json} {r : Record} :
    recordOf? p room item = some r ↔ Tells p room item r := by
  unfold recordOf?
  constructor
  · intro h
    rcases decodeRecord_cases p room item with ⟨r', htells, hdecode⟩ | ⟨-, -, hdecode⟩ |
        ⟨-, -, -, f, -, -, hdecode⟩
    · rw [hdecode] at h
      cases h
      exact htells
    · rw [hdecode, passOver] at h
      split at h <;> cases h
    · rw [hdecode] at h
      cases h
  · rintro ⟨time, hnamed, htime, hend⟩
    rw [decodeRecord_named hnamed, htime, Outcome.ok_bind]
    dsimp only
    rw [if_pos hend]
    rfl

/-! ## Texts -/

/-- No item of the text stops the reading. -/
def Readable (p : Periods) (room : Room) (text : Option String) : Prop :=
  ∀ item ∈ storedItems room text, ∀ f, ¬ Stops p room item f

section Texts

variable {p : Periods} {room : Room} {text : Option String} {rs : List Record}

theorem decode_eq (p : Periods) (room : Room) (text : Option String) :
    decode p room text = (do
      let found ← (storedItems room text).mapM (decodeRecord p room)
      return found.filterMap id) := by
  unfold decode storedItems
  rcases text.map fun s : String => Json.read room.text s with _ | (_ | j)
  · rfl
  · rfl
  · cases j <;> rfl

/-- Each item of a readable text is read as it would be by itself. -/
theorem decode_readable (h : Readable p room text) :
    decode p room text = .ok ((storedItems room text).filterMap (recordOf? p room)) := by
  have hmap : (storedItems room text).mapM (decodeRecord p room) =
      .ok ((storedItems room text).map (recordOf? p room)) := by
    rw [Outcome.mapM_eq_ok, List.forall₂_map_right_iff, List.forall₂_same]
    intro item hitem
    rcases decodeRecord_eq p room item with ⟨f, hstops, -⟩ | ⟨-, hread⟩
    · exact absurd hstops (h item hitem f)
    · exact hread
  rw [decode_eq, hmap, Outcome.ok_bind, List.filterMap_map]
  rfl

/-- The first item that stops the reading. -/
def FirstStop (p : Periods) (room : Room) (items : List Json) (f : Failure) : Prop :=
  ∃ before item after, items = before ++ item :: after ∧
    (∀ other ∈ before, ∀ f, ¬ Stops p room other f) ∧ Stops p room item f

theorem mapM_firstStop {items : List Json} (h : ∃ item ∈ items, ∃ f, Stops p room item f) :
    ∃ f, FirstStop p room items f ∧ items.mapM (decodeRecord p room) = .error f := by
  induction items with
  | nil => simp at h
  | cons item items ih =>
    rw [List.mapM_cons]
    rcases decodeRecord_eq p room item with ⟨f, hstops, hfail⟩ | ⟨hnot, hread⟩
    · exact ⟨f, ⟨[], item, items, rfl, by simp, hstops⟩, by rw [hfail]; rfl⟩
    · have hrest : ∃ item ∈ items, ∃ f, Stops p room item f := by
        obtain ⟨other, hother, f, hstops⟩ := h
        rcases List.mem_cons.mp hother with rfl | hmem
        · exact absurd hstops (hnot f)
        · exact ⟨other, hmem, f, hstops⟩
      obtain ⟨f, ⟨before, stop, after, rfl, hbefore, hstops⟩, hfail⟩ := ih hrest
      refine ⟨f, ⟨item :: before, stop, after, rfl, ?_, hstops⟩, ?_⟩
      · exact List.forall_mem_cons.mpr ⟨hnot, hbefore⟩
      · rw [hread, Outcome.ok_bind, hfail]
        rfl

/-- A text that is not readable fails with the first item that stops the reading. -/
theorem decode_unreadable (h : ¬ Readable p room text) :
    ∃ f, FirstStop p room (storedItems room text) f ∧ decode p room text = .error f := by
  unfold Readable at h
  push Not at h
  obtain ⟨f, hfirst, hfail⟩ := mapM_firstStop h
  exact ⟨f, hfirst, by rw [decode_eq, hfail, Outcome.error_bind]⟩

theorem readable_of_decode (h : decode p room text = .ok rs) : Readable p room text := by
  by_contra hnot
  obtain ⟨f, -, hfail⟩ := decode_unreadable hnot
  cases h.symm.trans hfail

theorem joined_of_mem_storedItems {item : Json} (h : item ∈ storedItems room text) :
    item.Joined := by
  unfold storedItems at h
  split at h
  · rename_i items hread
    obtain ⟨s, -, hs⟩ := Option.map_eq_some_iff.mp hread
    cases Json.joined_of_read hs with
    | arr hall => exact hall item h
  · cases h

theorem joined_of_named {item time : Json} {templateId childId : WideText} (hitem : item.Joined)
    (h : named? item = some (templateId, childId, time)) :
    templateId.joined = templateId ∧ childId.joined = childId := by
  unfold named? at h
  simp only [Option.bind_eq_bind, Option.bind_eq_some_iff, Option.pure_def, Option.some.injEq,
    Prod.mk.injEq] at h
  obtain ⟨t, ⟨v, hv, ht⟩, c, ⟨v', hv', hc⟩, -, -, rfl, rfl, -⟩ := h
  exact ⟨(hitem.member hv).wideText ht, (hitem.member hv').wideText hc⟩

/-- Every record that is read reads back once it is written again. -/
theorem readsBack_of_decode (h : decode p room text = .ok rs) : ∀ r ∈ rs, p.ReadsBack r := by
  have hread := readable_of_decode h
  rw [decode_readable hread] at h
  cases h
  intro r hr
  obtain ⟨item, hitem, hrecord⟩ := List.mem_filterMap.mp hr
  obtain ⟨time, hnamed, -, hend⟩ := recordOf?_eq_some.mp hrecord
  obtain ⟨htemplate, hchild⟩ := joined_of_named (joined_of_mem_storedItems hitem) hnamed
  refine ⟨hend, ?_⟩
  unfold Record.joined
  rw [htemplate, hchild]

end Texts

/-! ## Commands -/

/-- Any time that the command asks about is an instant. -/
def Command.Timely : Command → Prop
  | .isOnCooldown _ _ now => ∃ u, now.utc = .ok u
  | _ => True

namespace Store

/-- No item of the stored text stops the reading. -/
def Readable (s : Store) : Prop := Cooldown.Readable s.periods s.room s.text

variable {s s' : Store} {rs : List Record}

theorem records_readable (h : s.Readable) :
    ∃ rs s', s.records = .ok (rs, s') := by
  unfold records
  cases s.cache with
  | some rs => exact ⟨rs, s, rfl⟩
  | none =>
    dsimp only
    rw [decode_readable h]
    exact ⟨_, _, rfl⟩

theorem isOnCooldown_total (h : s.records = .ok (rs, s')) (templateId childId : String)
    {now : Timestamp} (hnow : ∃ u, now.utc = .ok u) :
    ∃ rests, (s.isOnCooldown templateId childId now).1 = .ok rests := by
  obtain ⟨u, hu⟩ := hnow
  unfold isOnCooldown
  rw [cooldownEnd_of_records h, hu]
  cases (find? rs templateId childId).map s.periods.endOf with
  | none => exact ⟨false, rfl⟩
  | some ends => exact ⟨u < ends, rfl⟩

theorem recordMany_total (hback : s.periods.retention.neg = .ok ⟨-s.periods.retention.micros⟩)
    (h : s.Readable) (pairs : List (String × String)) (time : Instant) :
    (s.recordMany pairs time).1 = .ok () := by
  rw [recordMany_of_decode hback (decode_readable h)]

theorem perform_readable (hback : s.periods.retention.neg = .ok ⟨-s.periods.retention.micros⟩)
    (h : s.Readable) {c : Command} (hc : c.Timely) : ∃ a, (s.perform c).1 = .ok a := by
  obtain ⟨rs, s', hrecords⟩ := records_readable h
  cases c with
  | recordShown templateId childId time =>
    simp [perform, recordShown, recordMany_total hback h, Except.map]
  | recordMany pairs time => simp [perform, recordMany_total hback h, Except.map]
  | clearChild childId =>
    simp [perform, clearChild_eq, decode_readable h, Except.map, answered]
  | clearAll => exact ⟨_, rfl⟩
  | invalidate => exact ⟨_, rfl⟩
  | records => simp [perform, hrecords, answered]
  | cooldownEnd templateId childId => simp [perform, cooldownEnd_of_records hrecords, answered]
  | isOnCooldown templateId childId now =>
    obtain ⟨rests, hrests⟩ := isOnCooldown_total hrecords templateId childId hc
    simp [perform, hrests, Except.map]
  | active now => simp [perform, active_of_records hrecords, answered]

theorem perform_unreadable (h : ¬ s.Readable) (childId : String) :
    ∃ f, (s.perform (.clearChild childId)).1 = .error f := by
  obtain ⟨f, -, hfail⟩ := decode_unreadable h
  exact ⟨f, by simp [perform, clearChild_eq, hfail, Except.map, answered]⟩

end Store

/-! ## A record in the far future -/

/-- A record in seconds, thirty thousand million years from now. -/
def farText : String :=
  "[\x7b\"templateId\": \"goal_stalled\", \"childId\": \"c1\", \"lastShownAt\": 1000000000000000000\x7d]"

/-- No command needs the record, and each fails. -/
theorem far_record_not_skipped :
    ¬ ∀ (text : Option String) (c : Command), c.Timely →
      ∃ a, (({ text } : Store).perform c).1 = .ok a := by
  intro hall
  obtain ⟨a, ha⟩ := hall (some farText) .records trivial
  have hfails : (({ text := some farText } : Store).perform .records).1.isOk = false := by
    decide +kernel
  rw [ha] at hfails
  cases hfails

/-- Whatever is stored and cached, every command is answered just when no stored item stops
the reading. Then each item is read by itself, and only the records count. Otherwise the
text fails with the first item that stops the reading. -/
theorem answers_iff_readable {s : Store} {retentionDays : Int}
    (hretention : Duration.ofDays (.whole retentionDays) = .ok s.periods.retention) :
    ((∀ c : Command, c.Timely → ∃ a, (s.perform c).1 = .ok a) ↔ s.Readable) ∧
      (s.Readable →
        decode s.periods s.room s.text =
          .ok ((storedItems s.room s.text).filterMap (recordOf? s.periods s.room))) ∧
      (¬ s.Readable →
        ∃ f, FirstStop s.periods s.room (storedItems s.room s.text) f ∧
          decode s.periods s.room s.text = .error f) ∧
      ∀ item r, recordOf? s.periods s.room item = some r ↔ Tells s.periods s.room item r := by
  have hback := Duration.neg_of_ofDays hretention
  refine ⟨⟨?_, ?_⟩, decode_readable, decode_unreadable, ?_⟩
  · intro hall
    by_contra hnot
    obtain ⟨a, ha⟩ := hall (.clearChild "") trivial
    obtain ⟨f, hf⟩ := Store.perform_unreadable hnot ""
    cases ha.symm.trans hf
  · intro h c hc
    exact Store.perform_readable hback h hc
  · intro item r
    exact recordOf?_eq_some

/-- One record among items that are none. -/
def mixedText : String :=
  "[7, \x7b\"templateId\": \"goal_stalled\", \"childId\": \"c1\", \"lastShownAt\": true\x7d, " ++
    "\x7b\"templateId\": \"goal_stalled\", \"childId\": \"c2\", \"lastShownAt\": 0\x7d]"

theorem answers_iff_readable_mixed :
    Duration.ofDays (.whole 30) = .ok Periods.standard.retention ∧
      decode .standard .standard (some mixedText) =
        .ok [Record.ofPair ("goal_stalled", "c2") Instant.epoch] ∧
      ∀ c : Command, c.Timely → ∃ a, (({ text := some mixedText } : Store).perform c).1 = .ok a := by
  have hthirty : Duration.ofDays (.whole 30) = .ok Periods.standard.retention :=
    Duration.ofDays_whole.mpr (by decide)
  have hdecode : (decode .standard .standard (some mixedText)).toOption =
      some [Record.ofPair ("goal_stalled", "c2") Instant.epoch] := by
    decide +kernel
  have hmain := @answers_iff_readable { text := some mixedText } 30 hthirty
  have hread : decode .standard .standard (some mixedText) =
      .ok [Record.ofPair ("goal_stalled", "c2") Instant.epoch] := by
    cases hcase : decode .standard .standard (some mixedText) with
    | error f =>
      rw [hcase] at hdecode
      cases hdecode
    | ok rs =>
      rw [hcase] at hdecode
      exact congrArg Except.ok (Option.some.inj hdecode)
  exact ⟨hthirty, hread, hmain.1.mpr (readable_of_decode hread)⟩

end Cooldown

end MomentInsights
