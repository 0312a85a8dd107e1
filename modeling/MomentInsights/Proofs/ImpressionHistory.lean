-- What a tracker knows, read off its history. Whatever calls were made, a card is recorded
-- if one of them displayed it since the last reset. Otherwise its time on screen starts
-- where the calls since it was last hidden say, and this decides when it is due.
import Mathlib.Data.List.DropRight
import MomentInsights.Proofs.ImpressionCalls
import MomentInsights.Proofs.Nearest

namespace MomentInsights

namespace Impressions

/-! ## What the history tells -/

/-- The call forgets all cards. -/
def Call.isReset (call : Call) : Bool :=
  match call.command with
  | .reset => true
  | _ => false

/-- One of the calls since the last reset displayed the card. -/
def recordedBy (log : List Entry) (c : ShownCard) : Bool :=
  (log.rtakeWhile fun e => !e.call.isReset).any fun e => e.cards.any (c.id == ·.id)

theorem recordedBy_snoc (log : List Entry) (e : Entry) (c : ShownCard) :
    recordedBy (log ++ [e]) c =
      (!e.call.isReset && (recordedBy log c || e.cards.any (c.id == ·.id))) := by
  unfold recordedBy
  rw [List.rtakeWhile_concat]
  cases e.call.isReset with
  | true => rfl
  | false => simp

theorem recordedBy_append {log es : List Entry} (h : ∀ e ∈ es, e.call.isReset = false)
    (c : ShownCard) : recordedBy (log ++ es) c =
      (recordedBy log c || es.any fun e => e.cards.any (c.id == ·.id)) := by
  induction es using List.reverseRecOn with
  | nil => simp
  | append_singleton es e ih =>
    have hes := ih fun e' he' => h e' (List.mem_append_left _ he')
    have he := h e (List.mem_append_right _ List.mem_cons_self)
    rw [← List.append_assoc, recordedBy_snoc, hes, he]
    simp [Bool.or_assoc]

/-- The call takes the card from the screen. -/
def Call.ends (c : ShownCard) (call : Call) : Bool :=
  match call.command with
  | .hidden d => c.id == d.id
  | .reset => true
  | _ => false

/-- The start that a call gives which tells for how long the card was visible. -/
def Call.told? (c : ShownCard) (call : Call) : Option Timestamp :=
  match call.command with
  | .visibleFor d seconds =>
    if c.id = d.id then
      ((Duration.ofSeconds seconds).bind Duration.neg).toOption.map call.now.shift
    else none
  | _ => none

/-- The start that a call gives by which the card comes on screen. -/
def Call.came? (c : ShownCard) (call : Call) : Option Timestamp :=
  match call.command with
  | .appeared d => if c.id = d.id then some call.now else none
  | _ => none

/-- Since when the card is visible: of the calls after the last one that took it from the
screen, the last one that tells a time says so, or else the first by which it came. -/
def start? (c : ShownCard) (calls : List Call) : Option Timestamp :=
  let shown := calls.rtakeWhile fun call => !call.ends c
  (shown.reverse.findSome? (Call.told? c)).or (shown.findSome? (Call.came? c))

theorem start?_snoc (c : ShownCard) (calls : List Call) (call : Call) :
    start? c (calls ++ [call]) =
      if call.ends c then none
      else (call.told? c).or ((start? c calls).or (call.came? c)) := by
  unfold start?
  dsimp only
  rw [List.rtakeWhile_concat]
  cases hends : call.ends c with
  | true => rfl
  | false =>
    have htold : [call].findSome? (Call.told? c) = call.told? c := by simp
    have hcame : [call].findSome? (Call.came? c) = call.came? c := by simp
    simp only [Bool.not_false, if_true, Bool.false_eq_true, if_false]
    rw [List.reverse_append, List.reverse_singleton, List.findSome?_append, List.findSome?_append,
      htold, hcame, Option.or_assoc, Option.or_assoc]

theorem start?_appeared (c d : ShownCard) (calls : List Call) (now : Timestamp) :
    start? c (calls ++ [⟨.appeared d, now⟩]) =
      (start? c calls).or (if c.id = d.id then some now else none) := by
  rw [start?_snoc]
  rfl

theorem start?_visibleFor (c d : ShownCard) (calls : List Call) (seconds : Number)
    (now : Timestamp) :
    start? c (calls ++ [⟨.visibleFor d seconds, now⟩]) =
      (if c.id = d.id then
        ((Duration.ofSeconds seconds).bind Duration.neg).toOption.map now.shift
      else none).or (start? c calls) := by
  have hcame : (Call.mk (.visibleFor d seconds) now).came? c = none := rfl
  rw [start?_snoc, hcame, Option.or_none]
  rfl

/-- The last time that was told counts, and not when the card came. -/
example : start? stalledCard
    [⟨.appeared stalledCard, .ofInstant Instant.epoch⟩,
      ⟨.visibleFor stalledCard (.whole 3), .ofInstant Instant.epoch⟩] =
    some ((Timestamp.ofInstant Instant.epoch).shift ⟨-3000000⟩) := by
  decide +kernel

theorem start?_hidden (c d : ShownCard) (calls : List Call) (now : Timestamp) :
    start? c (calls ++ [⟨.hidden d, now⟩]) = if c.id = d.id then none else start? c calls := by
  rw [start?_snoc]
  change (if (c.id == d.id) = true then none else _) = _
  by_cases hid : c.id = d.id
  · rw [if_pos hid, if_pos (beq_iff_eq.mpr hid)]
  · rw [if_neg hid, if_neg (by simpa using hid)]
    exact Option.or_none

/-! ## The history holds -/

/-- What the tracker knows is what the history tells. A card that is recorded is not on
screen. -/
structure Follows (log : List Entry) (t : Tracker) : Prop where
  recorded : ∀ c, t.isRecorded c = recordedBy log c
  since : ∀ c, t.isRecorded c = false → t.since? c = start? c (log.map Entry.call)
  apart : ∀ c, t.isRecorded c = true → t.since? c = none

variable {log : List Entry} {t : Tracker} {s : Impressions} {call : Call}

/-- A tracker that displayed nothing and told no times. -/
theorem follows_fresh (threshold : Number) : Follows [] { threshold } where
  recorded _ := rfl
  since _ _ := rfl
  apart c h := by cases h

theorem Follows.records (h : Follows log s.tracker) (hcall : call.records = true) :
    Follows (log ++ [⟨call, s.displayed call⟩]) (s.perform call).2.tracker := by
  have hreset : call.isReset = false := by
    obtain ⟨command, now⟩ := call
    cases command <;> first | rfl | cases hcall
  have hstart (c : ShownCard) :
      start? c ((log ++ [Entry.mk call (s.displayed call)]).map Entry.call) =
        start? c (log.map Entry.call) := by
    rw [List.map_append, List.map_singleton, start?_snoc]
    obtain ⟨command, now⟩ := call
    cases command <;> first | exact Option.or_none | cases hcall
  rw [perform_records hcall]
  constructor
  · intro c
    rw [Tracker.isRecorded_foldl_mark, recordedBy_snoc, h.recorded c, hreset, Bool.or_comm]
    rfl
  · intro c hnew
    rw [Tracker.isRecorded_foldl_mark, Bool.or_eq_false_iff] at hnew
    rw [Tracker.since?_foldl_mark, hnew.1, hstart, ← h.since c hnew.2]
    rfl
  · intro c hrecorded
    rw [Tracker.isRecorded_foldl_mark, Bool.or_eq_true] at hrecorded
    rw [Tracker.since?_foldl_mark]
    split
    · rfl
    · rename_i hother
      exact h.apart c (hrecorded.resolve_left hother)

/-- A call that displays nothing follows its history if the times on screen do. -/
theorem Follows.step (h : Follows log t) {t' : Tracker} (hrecorded : t'.recorded = t.recorded)
    (hreset : call.isReset = false)
    (hsince : ∀ c, t.isRecorded c = false →
      t'.since? c = start? c (log.map Entry.call ++ [call]))
    (hapart : ∀ c, t.isRecorded c = true → t'.since? c = none) :
    Follows (log ++ [⟨call, []⟩]) t' := by
  have hsame (c : ShownCard) : t'.isRecorded c = t.isRecorded c := by
    unfold Tracker.isRecorded
    rw [hrecorded]
  constructor
  · intro c
    rw [recordedBy_snoc, hsame, h.recorded c, hreset]
    simp
  · intro c hnew
    rw [hsame] at hnew
    rw [List.map_append, List.map_singleton]
    exact hsince c hnew
  · intro c hc
    rw [hsame] at hc
    exact hapart c hc

/-- A card comes on screen at a time that the history tells. -/
theorem Follows.visible (h : Follows log t) {d : ShownCard} {since : Timestamp}
    (hnew : t.isRecorded d = false) (hreset : call.isReset = false)
    (hsame : ∀ c, c.id = d.id → start? c (log.map Entry.call ++ [call]) = some since)
    (hother : ∀ c, c.id ≠ d.id →
      start? c (log.map Entry.call ++ [call]) = start? c (log.map Entry.call)) :
    Follows (log ++ [⟨call, []⟩]) (t.visibleSince d since) := by
  have hkept : (t.visibleSince d since).recorded = t.recorded := rfl
  apply h.step hkept hreset
  · intro c hc
    by_cases hid : c.id = d.id
    · rw [Tracker.since?_of_id hid, Tracker.since?_visibleSince, hsame c hid]
    · rw [Tracker.since?_visibleSince_of_ne hid, hother c hid, h.since c hc]
  · intro c hc
    have hid : c.id ≠ d.id := by
      intro hid
      rw [Tracker.isRecorded_of_id hid, hnew] at hc
      cases hc
    rw [Tracker.since?_visibleSince_of_ne hid, h.apart c hc]

theorem Follows.appeared (h : Follows log t) (d : ShownCard) (now : Timestamp) :
    Follows (log ++ [⟨⟨.appeared d, now⟩, []⟩]) (t.appeared d now) := by
  unfold Tracker.appeared
  split
  · rename_i hkept
    apply h.step rfl rfl _ h.apart
    intro c hc
    rw [start?_appeared, ← h.since c hc]
    by_cases hid : c.id = d.id
    · rw [Tracker.isRecorded_of_id hid] at hc
      rw [hc, Bool.false_or, ← Tracker.since?_of_id hid] at hkept
      exact (Option.or_of_isSome hkept).symm
    · rw [if_neg hid, Option.or_none]
  · rename_i hcomes
    rw [Bool.or_eq_true, not_or, Bool.not_eq_true, Bool.not_eq_true] at hcomes
    obtain ⟨hnew, hnone⟩ := hcomes
    apply h.visible hnew rfl
    · intro c hid
      have hc : t.isRecorded c = false := by rw [Tracker.isRecorded_of_id hid, hnew]
      have hstart : start? c (log.map Entry.call) = none := by
        rw [← h.since c hc, Tracker.since?_of_id hid]
        exact Option.not_isSome_iff_eq_none.mp (by simp [hnone])
      rw [start?_appeared, hstart, if_pos hid]
      rfl
    · intro c hid
      rw [start?_appeared, if_neg hid, Option.or_none]

theorem Follows.visibleFor (h : Follows log s.tracker) (d : ShownCard) (seconds : Number)
    (now : Timestamp) :
    Follows (log ++ [⟨⟨.visibleFor d seconds, now⟩, []⟩])
      (s.perform ⟨.visibleFor d seconds, now⟩).2.tracker := by
  have hstart (c : ShownCard) := start?_visibleFor c d (log.map Entry.call) seconds now
  unfold perform
  dsimp only
  rw [Tracker.visibleFor_eq]
  cases hnew : s.tracker.isRecorded d with
  | true =>
    apply h.step rfl rfl _ h.apart
    intro c hc
    have hid : c.id ≠ d.id := by
      intro hid
      rw [Tracker.isRecorded_of_id hid, hnew] at hc
      cases hc
    rw [hstart, if_neg hid, h.since c hc]
    rfl
  | false =>
    cases hback : (Duration.ofSeconds seconds).bind Duration.neg with
    | error f =>
      apply h.step rfl rfl _ h.apart
      intro c hc
      rw [hstart, hback, h.since c hc]
      exact (congrArg (Option.or · _) (ite_self none)).symm
    | ok back =>
      apply h.visible hnew rfl
      · intro c hid
        rw [hstart, hback, if_pos hid]
        rfl
      · intro c hid
        rw [hstart, if_neg hid]
        rfl

theorem Follows.hidden (h : Follows log t) (d : ShownCard) (now : Timestamp) :
    Follows (log ++ [⟨⟨.hidden d, now⟩, []⟩]) (t.hidden d) := by
  have hkept : (t.hidden d).recorded = t.recorded := rfl
  apply h.step hkept rfl
  · intro c hc
    rw [start?_hidden]
    by_cases hid : c.id = d.id
    · rw [Tracker.since?_of_id hid, Tracker.since?_hidden, if_pos hid]
    · rw [Tracker.since?_hidden_of_ne hid, if_neg hid, h.since c hc]
  · intro c hc
    by_cases hid : c.id = d.id
    · rw [Tracker.since?_of_id hid, Tracker.since?_hidden]
    · rw [Tracker.since?_hidden_of_ne hid, h.apart c hc]

theorem follows_reset (log : List Entry) (t : Tracker) (now : Timestamp) :
    Follows (log ++ [⟨⟨.reset, now⟩, []⟩]) t.reset := by
  constructor
  · intro c
    rw [recordedBy_snoc]
    rfl
  · intro c _
    rw [List.map_append, List.map_singleton, start?_snoc]
    rfl
  · intro c hc
    cases hc

/-- Every call keeps the tracker with its history. -/
theorem Follows.next (h : Follows log s.tracker) (call : Call) :
    Follows (log ++ [⟨call, s.displayed call⟩]) (s.perform call).2.tracker := by
  cases hrecords : call.records with
  | true => exact h.records hrecords
  | false =>
    rw [displayed_eq_nil hrecords]
    obtain ⟨command, now⟩ := call
    cases command with
    | appeared d => exact h.appeared d now
    | visibleFor d seconds => exact h.visibleFor d seconds now
    | hidden d => exact h.hidden d now
    | reset => exact follows_reset log s.tracker now
    | _ => cases hrecords

/-- So does every run of calls. -/
theorem follows_after (threshold : Number) (store : Cooldown.Store) (calls : List Call) :
    Follows ((fresh threshold store).log calls) ((fresh threshold store).after calls).tracker := by
  induction calls using List.reverseRecOn with
  | nil => exact follows_fresh threshold
  | append_singleton calls call ih =>
    rw [log_snoc]
    unfold after at ih ⊢
    rw [List.foldl_append]
    exact ih.next call

/-! ## Due cards -/

/-- By the calls the card has been on screen for the threshold. -/
def dueBy (threshold : Number) (calls : List Call) (now : Timestamp) (c : ShownCard) : Bool :=
  (start? c calls).any fun since =>
    (since.spanTo now).toOption.any fun span => threshold.leReal span.seconds

/-- With a threshold of whole microseconds a card is due just when the threshold has passed. -/
theorem dueBy_iff {threshold : Number} {m : Nat} (h : threshold.IsMicros m) {calls : List Call}
    {now : Timestamp} {c : ShownCard} :
    dueBy threshold calls now c = true ↔ ∃ since span, start? c calls = some since ∧
      since.spanTo now = .ok span ∧ (m : Int) ≤ span.micros := by
  unfold dueBy
  rw [Option.any_eq_true]
  apply exists_congr
  intro since
  simp only [h.leReal_seconds, Option.any_eq_true, decide_eq_true_eq]
  cases since.spanTo now with
  | ok span => simp [Except.toOption]
  | error f => simp [Except.toOption]

/-- Where no threshold is set, it is two seconds. -/
example : Tracker.standardThreshold.IsMicros (2 * Duration.secondMicros) :=
  ⟨by decide, Or.inl (by decide +kernel)⟩

/-- The time since the card's start can be told: both clocks have offsets, or neither has. -/
def Comparable (calls : List Call) (now : Timestamp) (c : ShownCard) : Prop :=
  ∀ since, start? c calls = some since → ∃ span, since.spanTo now = .ok span

variable {c : ShownCard} {now : Timestamp}

theorem Follows.hasMet (h : Follows log t) (hnew : t.isRecorded c = false)
    (hclock : Comparable (log.map Entry.call) now c) :
    t.hasMet c now = .ok (dueBy t.threshold (log.map Entry.call) now c) := by
  unfold Tracker.hasMet dueBy
  rw [h.since c hnew]
  cases hstart : start? c (log.map Entry.call) with
  | none => rfl
  | some since =>
    obtain ⟨span, hspan⟩ := hclock since hstart
    dsimp only [Option.any]
    rw [hspan]
    rfl

theorem Follows.hasMet_mixed (h : Follows log t) (hnew : t.isRecorded c = false)
    (hclock : ¬ Comparable (log.map Entry.call) now c) : ∃ f, t.hasMet c now = .error f := by
  unfold Comparable at hclock
  simp only [not_forall] at hclock
  obtain ⟨since, hstart, hspan⟩ := hclock
  unfold Tracker.hasMet
  rw [h.since c hnew, hstart]
  dsimp only
  cases hresult : since.spanTo now with
  | ok span => exact absurd ⟨span, hresult⟩ hspan
  | error f => exact ⟨f, rfl⟩

theorem Follows.unrecorded (h : Follows log t) (cards : List ShownCard) :
    t.unrecorded cards = cards.filter fun c => !recordedBy log c := by
  unfold Tracker.unrecorded
  simp only [h.recorded]

theorem Follows.due (h : Follows log t) (cards : List ShownCard) (now : Timestamp)
    (hclocks : ∀ c ∈ cards, recordedBy log c = false → Comparable (log.map Entry.call) now c) :
    t.due cards now = .ok ((cards.filter fun c => !recordedBy log c).filter
      (dueBy t.threshold (log.map Entry.call) now)) := by
  have hmet : ∀ c ∈ t.unrecorded cards,
      t.hasMet (id c) now = .ok (dueBy t.threshold (log.map Entry.call) now c) := by
    intro c hc
    obtain ⟨hlisted, hnew⟩ := Tracker.unrecorded_spec hc
    exact h.hasMet hnew (hclocks c hlisted ((h.recorded c).symm.trans hnew))
  have hfilter := Outcome.filterM_map (f := fun c => t.hasMet c now) (g := id) _ hmet
  rw [List.map_id, List.map_id, h.unrecorded] at hfilter
  unfold Tracker.due
  rw [h.unrecorded]
  exact hfilter

theorem Follows.due_mixed (h : Follows log t) (cards : List ShownCard) (now : Timestamp)
    (hclocks : ¬ ∀ c ∈ cards, recordedBy log c = false → Comparable (log.map Entry.call) now c) :
    t.due cards now = .error .mixedClocks := by
  simp only [not_forall] at hclocks
  obtain ⟨c, hlisted, hrecorded, hclock⟩ := hclocks
  have hnew : t.isRecorded c = false := (h.recorded c).trans hrecorded
  have hmem : c ∈ t.unrecorded cards := List.mem_filter.mpr ⟨hlisted, by rw [hnew]; rfl⟩
  exact Outcome.filterM_eq_error (fun c _ => t.hasMet_failsOnly c now)
    ⟨c, hmem, h.hasMet_mixed hnew hclock⟩

/-! ## The tracker follows its history -/

/-- What a tracker knows and does, told by the calls that were made and by what they
displayed. -/
structure FollowsHistory (threshold : Number) (calls : List Call) (log : List Entry)
    (s : Impressions) : Prop where
  /-- The cards that a call displays are those that it passes on. -/
  passed (call : Call) : (s.perform call).2.store =
    (Engine.recordDisplayed ((s.displayed call).map ShownCard.pair) s.store call.now).2
  /-- A card is recorded if one of the calls since the last reset displayed it. -/
  recorded (c : ShownCard) : s.tracker.isRecorded c = recordedBy log c
  /-- No card is at once recorded and on screen. -/
  apart (c : ShownCard) : s.tracker.isRecorded c = true → s.tracker.since? c = none
  /-- Between two resets at most one call displays a card. -/
  once (before between later : List Entry) (first second : Entry) :
    log = before ++ first :: (between ++ second :: later) →
      (∀ e ∈ between, e.call.isReset = false) →
        ∀ c ∈ first.cards, ∀ d ∈ second.cards, c.id ≠ d.id
  /-- The cards that are due are recorded: those that were not recorded since the last reset,
  and came on screen at least the threshold ago. -/
  due (cards : List ShownCard) (now : Timestamp) :
    (∀ c ∈ cards, recordedBy log c = false → Comparable calls now c) →
      s.recordDue cards now =
        s.recordThem ((cards.filter fun c => !recordedBy log c).filter (dueBy threshold calls now))
          now
  /-- If the time since one of the starts cannot be told, nothing is recorded. -/
  mixed (cards : List ShownCard) (now : Timestamp) :
    (¬ ∀ c ∈ cards, recordedBy log c = false → Comparable calls now c) →
      s.recordDue cards now = (.error .mixedClocks, s)
  /-- With a threshold of whole microseconds the comparison is exact. -/
  reached (m : Nat) (now : Timestamp) (c : ShownCard) : threshold.IsMicros m →
    (dueBy threshold calls now c = true ↔ ∃ since span, start? c calls = some since ∧
      since.spanTo now = .ok span ∧ (m : Int) ≤ span.micros)

theorem records_of_isReset (h : call.isReset = true) : call.records = false := by
  obtain ⟨command, now⟩ := call
  cases command <;> first | rfl | cases h

/-- What was displayed since the last reset is not displayed again. -/
theorem displayed_once {before between later : List Entry} {first second : Entry}
    {threshold : Number} {store : Cooldown.Store} {calls : List Call}
    (hlog : (fresh threshold store).log calls =
      before ++ first :: (between ++ second :: later))
    (hbetween : ∀ e ∈ between, e.call.isReset = false) {c d : ShownCard} (hc : c ∈ first.cards)
    (hd : d ∈ second.cards) : c.id ≠ d.id := by
  intro hid
  obtain ⟨-, hfirst⟩ := log_eq_append hlog
  have hreset : first.call.isReset = false := by
    rw [hfirst] at hc
    cases hreset : first.call.isReset with
    | false => rfl
    | true =>
      rw [displayed_eq_nil (records_of_isReset hreset)] at hc
      cases hc
  have hsplit : before ++ first :: (between ++ second :: later) =
      (before ++ first :: between) ++ second :: later := by simp
  rw [hsplit] at hlog
  obtain ⟨hearlier, hsecond⟩ := log_eq_append hlog
  have hfollows := follows_after threshold store ((before ++ first :: between).map Entry.call)
  rw [hearlier] at hfollows
  have hnew := displayed_new (hsecond ▸ hd)
  have hrecorded : recordedBy (before ++ first :: between) d = true := by
    rw [recordedBy_append (by simpa [hreset] using hbetween), Bool.or_eq_true]
    right
    rw [List.any_cons, Bool.or_eq_true]
    exact Or.inl (List.any_eq_true.mpr ⟨c, hc, beq_iff_eq.mpr hid.symm⟩)
  rw [hfollows.recorded d, hrecorded] at hnew
  cases hnew

/-- A tracker follows its history, whatever the calls are and whatever the clock shows. -/
theorem tracker_follows_history (threshold : Number) (store : Cooldown.Store)
    (calls : List Call) :
    FollowsHistory threshold calls ((fresh threshold store).log calls)
      ((fresh threshold store).after calls) := by
  have hfollows := follows_after threshold store calls
  have hthreshold : ((fresh threshold store).after calls).tracker.threshold = threshold :=
    after_threshold _ calls
  constructor
  · exact perform_store _
  · exact hfollows.recorded
  · exact hfollows.apart
  · intro before between later first second hlog hbetween c hc d hd
    exact displayed_once hlog hbetween hc hd
  · intro cards now hclocks
    have hdue := hfollows.due cards now
    rw [log_calls, hthreshold] at hdue
    unfold recordDue
    rw [hdue hclocks]
  · intro cards now hclocks
    have hdue := hfollows.due_mixed cards now
    rw [log_calls] at hdue
    unfold recordDue
    rw [hdue hclocks]
  · intro m now c hmicros
    exact dueBy_iff hmicros

end Impressions

end MomentInsights
