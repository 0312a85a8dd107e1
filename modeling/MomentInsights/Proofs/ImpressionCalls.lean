-- What can happen to cards on screen, one call after another. A call records cards, or it
-- moves the times on screen. A recording marks what it displays and passes it on, whether or
-- not the display fails.
import MomentInsights.Proofs.TimesOnScreen

namespace MomentInsights

namespace Tracker

/-! ## One card among others -/

variable {t : Tracker} {c d : ShownCard}

theorem since?_of_id (h : c.id = d.id) : t.since? c = t.since? d := by
  unfold since?
  rw [h]

theorem isRecorded_of_id (h : c.id = d.id) : t.isRecorded c = t.isRecorded d := by
  unfold isRecorded
  rw [h]

theorem hasMet_of_id (h : c.id = d.id) (now : Timestamp) : t.hasMet c now = t.hasMet d now := by
  unfold hasMet
  rw [since?_of_id h]

theorem since?_foldl_mark (cards : List ShownCard) :
    (cards.foldl mark t).since? c =
      if cards.any (c.id == ·.id) then none else t.since? c := by
  induction cards generalizing t with
  | nil => rfl
  | cons d cards ih =>
    have hmark : (t.mark d).since? c = if c.id == d.id then none else t.since? c := by
      change (t.hidden d).since? c = _
      by_cases hid : c.id = d.id
      · rw [since?_of_id hid, since?_hidden, if_pos (beq_iff_eq.mpr hid)]
      · rw [since?_hidden_of_ne hid, if_neg (by simpa using hid)]
    rw [List.foldl_cons, ih, hmark, List.any_cons]
    cases c.id == d.id <;> cases cards.any (c.id == ·.id) <;> rfl

theorem foldl_mark_threshold (cards : List ShownCard) :
    (cards.foldl Tracker.mark t).threshold = t.threshold := by
  induction cards generalizing t with
  | nil => rfl
  | cons d cards ih => exact ih

theorem unrecorded_spec {cards : List ShownCard} (h : c ∈ t.unrecorded cards) :
    c ∈ cards ∧ t.isRecorded c = false := by
  obtain ⟨hc, hnew⟩ := List.mem_filter.mp h
  exact ⟨hc, by simpa using hnew⟩

/-! ## Times on screen that move -/

theorem visibleFor_eq (t : Tracker) (d : ShownCard) (seconds : Number) (now : Timestamp) :
    t.visibleFor d seconds now =
      if t.isRecorded d then .ok t
      else ((Duration.ofSeconds seconds).bind Duration.neg).map fun back =>
        t.visibleSince d (now.shift back) := by
  unfold visibleFor
  split
  · rfl
  · cases Duration.ofSeconds seconds with
    | error f => rfl
    | ok span =>
      change (span.neg >>= fun back => .ok (t.visibleSince d (now.shift back))) = span.neg.map _
      cases span.neg <;> rfl

/-- What a tracker may become when nothing is recorded. -/
inductive Moves (t : Tracker) : Tracker → Prop where
  | kept : Moves t t
  | visible (c : ShownCard) (since : Timestamp) : Moves t (t.visibleSince c since)
  | hidden (c : ShownCard) : Moves t (t.hidden c)
  | reset : Moves t t.reset

theorem Moves.threshold {t' : Tracker} (h : t.Moves t') : t'.threshold = t.threshold := by
  cases h <;> rfl

theorem Moves.recorded {t' : Tracker} (h : t.Moves t') : t'.recorded ⊆ t.recorded := by
  cases h with
  | reset => exact List.nil_subset _
  | _ => exact List.Subset.refl _

theorem appeared_moves (t : Tracker) (d : ShownCard) (now : Timestamp) :
    t.Moves (t.appeared d now) := by
  unfold appeared
  split
  · exact .kept
  · exact .visible d now

theorem visibleFor_moves {t' : Tracker} {seconds : Number} {now : Timestamp}
    (h : t.visibleFor d seconds now = .ok t') : t.Moves t' := by
  rw [visibleFor_eq] at h
  split at h
  · cases h
    exact .kept
  · cases hback : (Duration.ofSeconds seconds).bind Duration.neg with
    | error f =>
      rw [hback] at h
      cases h
    | ok back =>
      rw [hback] at h
      cases h
      exact .visible d _

/-! ## Times that cannot be told -/

theorem spanTo_failsOnly (since now : Timestamp) :
    Outcome.FailsOnly .mixedClocks (since.spanTo now) := by
  unfold Timestamp.spanTo
  split
  · exact Outcome.failsOnly_ok _ _
  · exact Outcome.failsOnly_ok _ _
  · intro f hf
    cases hf
    rfl

theorem hasMet_failsOnly (t : Tracker) (c : ShownCard) (now : Timestamp) :
    Outcome.FailsOnly .mixedClocks (t.hasMet c now) := by
  unfold Tracker.hasMet
  split
  · exact Outcome.failsOnly_ok _ _
  · exact Outcome.failsOnly_bind (spanTo_failsOnly _ _) fun _ _ => Outcome.failsOnly_ok _ _

end Tracker

/-- A test that fails on an element fails on the list, where all failures are the same. -/
theorem Outcome.filterM_eq_error {ε α : Type} {f : α → Except ε Bool} {e : ε} {xs : List α}
    (hsame : ∀ x ∈ xs, FailsOnly e (f x)) (hfails : ∃ x ∈ xs, ∃ e', f x = .error e') :
    xs.filterM f = .error e := by
  have hlength := filterAuxM_length f xs []
  rw [mapM_eq_error hsame hfails] at hlength
  unfold List.filterM
  cases hkept : xs.filterAuxM f [] with
  | ok kept =>
    rw [hkept] at hlength
    cases hlength
  | error e' =>
    rw [hkept] at hlength
    cases hlength
    rfl

namespace Impressions

/-! ## Calls -/

inductive Command where
  | appeared (c : ShownCard)
  | visibleFor (c : ShownCard) (seconds : Number)
  | hidden (c : ShownCard)
  | interacted (c : ShownCard)
  | recordDue (cards : List ShownCard)
  | recordAll (cards : List ShownCard)
  | reset

/-- A command, and what the clock shows. -/
structure Call where
  command : Command
  now : Timestamp

/-- What a call answers, and what it leaves. Only the recordings of lists answer with cards. -/
def perform (s : Impressions) (call : Call) : Except Failure (List ShownCard) × Impressions :=
  match call.command with
  | .appeared c => (.ok [], { s with tracker := s.tracker.appeared c call.now })
  | .visibleFor c seconds =>
    match s.tracker.visibleFor c seconds call.now with
    | .ok tracker => (.ok [], { s with tracker })
    | .error f => (.error f, s)
  | .hidden c => (.ok [], { s with tracker := s.tracker.hidden c })
  | .interacted c =>
    let (done, s) := s.interacted c call.now
    (done.map fun _ => [], s)
  | .recordDue cards => s.recordDue cards call.now
  | .recordAll cards => s.recordAll cards call.now
  | .reset => (.ok [], { s with tracker := s.tracker.reset })

/-- The cards that a call displays. -/
def displayed (s : Impressions) (call : Call) : List ShownCard :=
  match call.command with
  | .interacted c => s.tracker.unrecorded [c]
  | .recordDue cards => (s.tracker.due cards call.now).toOption.getD []
  | .recordAll cards => s.tracker.unrecorded cards
  | _ => []

/-- What the calls leave. -/
def after (s : Impressions) (calls : List Call) : Impressions :=
  calls.foldl (fun s call => (s.perform call).2) s

/-- A call, and the cards that it displayed. -/
structure Entry where
  call : Call
  cards : List ShownCard

/-- The calls, each with what it displayed. -/
def log (s : Impressions) : List Call → List Entry
  | [] => []
  | call :: calls => ⟨call, s.displayed call⟩ :: log (s.perform call).2 calls

/-- A tracker that was just made. -/
def fresh (threshold : Number) (store : Cooldown.Store) : Impressions := ⟨{ threshold }, store⟩

def stalledCard : ShownCard := { id := "k1", templateId := "goal_stalled", childId := "c1" }

/-! ## Calls after calls -/

theorem log_calls (s : Impressions) (calls : List Call) : (s.log calls).map Entry.call = calls := by
  induction calls generalizing s with
  | nil => rfl
  | cons call calls ih =>
    unfold log
    rw [List.map_cons, ih]

theorem log_snoc (s : Impressions) (calls : List Call) (call : Call) :
    s.log (calls ++ [call]) = s.log calls ++ [⟨call, (s.after calls).displayed call⟩] := by
  induction calls generalizing s with
  | nil => rfl
  | cons first calls ih =>
    rw [List.cons_append]
    unfold log
    rw [ih]
    rfl

/-- What an entry displays is displayed after the calls before it. -/
theorem log_eq_append {s : Impressions} {calls : List Call} {before later : List Entry} {e : Entry}
    (h : s.log calls = before ++ e :: later) :
    s.log (before.map Entry.call) = before ∧
      e.cards = (s.after (before.map Entry.call)).displayed e.call := by
  induction before generalizing s calls with
  | nil =>
    cases calls with
    | nil => cases h
    | cons call calls =>
      cases h
      exact ⟨rfl, rfl⟩
  | cons first before ih =>
    cases calls with
    | nil => cases h
    | cons call calls =>
      obtain ⟨rfl, hrest⟩ := List.cons.inj h
      obtain ⟨hlog, hcards⟩ := ih hrest
      refine ⟨?_, hcards⟩
      rw [List.map_cons]
      unfold log
      rw [hlog]

/-! ## What a call does -/

variable {s : Impressions} {call : Call}

/-- What is displayed was not recorded before. -/
theorem displayed_new {c : ShownCard} (h : c ∈ s.displayed call) :
    s.tracker.isRecorded c = false := by
  obtain ⟨command, now⟩ := call
  cases command with
  | interacted d => exact (Tracker.unrecorded_spec h).2
  | recordAll cards => exact (Tracker.unrecorded_spec h).2
  | recordDue cards =>
    unfold displayed at h
    dsimp only at h
    cases hdue : s.tracker.due cards now with
    | error f =>
      rw [hdue] at h
      cases h
    | ok due =>
      rw [hdue] at h
      unfold Tracker.due at hdue
      exact (Tracker.unrecorded_spec (Outcome.mem_of_mem_filterM hdue h)).2
  | _ => cases h

theorem perform_store (s : Impressions) (call : Call) : (s.perform call).2.store =
    (Engine.recordDisplayed ((s.displayed call).map ShownCard.pair) s.store call.now).2 := by
  obtain ⟨command, now⟩ := call
  cases command with
  | visibleFor d seconds =>
    unfold perform
    dsimp only
    cases s.tracker.visibleFor d seconds now <;> rfl
  | recordDue cards =>
    unfold perform displayed recordDue
    dsimp only
    cases s.tracker.due cards now <;> rfl
  | _ => rfl

/-- The call records cards. -/
def Call.records (call : Call) : Bool :=
  match call.command with
  | .interacted _ => true
  | .recordDue _ => true
  | .recordAll _ => true
  | _ => false

theorem displayed_eq_nil (h : call.records = false) : s.displayed call = [] := by
  obtain ⟨command, now⟩ := call
  cases command <;> first | rfl | cases h

/-- A recording marks what it displays, whether or not the display fails, and passes it on. -/
theorem perform_records (h : call.records = true) :
    (s.perform call).2.tracker = (s.displayed call).foldl Tracker.mark s.tracker := by
  obtain ⟨command, now⟩ := call
  cases command with
  | interacted d => rfl
  | recordAll cards => rfl
  | recordDue cards =>
    unfold perform displayed recordDue
    dsimp only
    cases s.tracker.due cards now <;> rfl
  | _ => cases h

/-- The other calls move the tracker, and change nothing where they fail. -/
theorem perform_moves (h : call.records = false) :
    s.tracker.Moves (s.perform call).2.tracker ∧
      ∀ f, (s.perform call).1 = .error f → (s.perform call).2 = s := by
  obtain ⟨command, now⟩ := call
  cases command with
  | appeared d => exact ⟨s.tracker.appeared_moves d now, fun f hf => by cases hf⟩
  | visibleFor d seconds =>
    unfold perform
    dsimp only
    cases hvisible : s.tracker.visibleFor d seconds now with
    | ok t' => exact ⟨Tracker.visibleFor_moves hvisible, fun f hf => by cases hf⟩
    | error f => exact ⟨.kept, fun f _ => rfl⟩
  | hidden d => exact ⟨.hidden d, fun f hf => by cases hf⟩
  | reset => exact ⟨.reset, fun f hf => by cases hf⟩
  | _ => cases h

theorem perform_threshold (s : Impressions) (call : Call) :
    (s.perform call).2.tracker.threshold = s.tracker.threshold := by
  cases hrecords : call.records with
  | true => rw [perform_records hrecords, Tracker.foldl_mark_threshold]
  | false => exact (perform_moves hrecords).1.threshold

theorem after_threshold (s : Impressions) (calls : List Call) :
    (s.after calls).tracker.threshold = s.tracker.threshold := by
  induction calls generalizing s with
  | nil => rfl
  | cons call calls ih => exact (ih _).trans (perform_threshold s call)

end Impressions

end MomentInsights
