-- The states that the service can get into: it starts with empty tables, and requests,
-- the clock, and tables that are out of reach for a while lead from one to the next. In
-- each of them the stored cooldown text has at most one record of a pair.
import MomentInsights.Proofs.CooldownHistory
import MomentInsights.Proofs.MomentBatch

namespace MomentInsights

open Cooldown (Record Showings Store)

/-! ## Displays -/

/-- The map after the pairs were displayed; displaying none changes nothing. -/
def Cooldown.Showings.display (m : Showings) (pairs : List (String × String)) (time : Instant) :
    Showings :=
  if pairs.isEmpty then m else m.record .standard pairs time

theorem Cooldown.Store.Holds.display {store : Store} {rs : List Record} {m : Showings}
    (h : store.Holds .standard rs m) (pairs : List (String × String)) (time : Instant) :
    ∃ rs', (Engine.recordDisplayed pairs store (Timestamp.ofInstant time)).2.Holds .standard rs'
      (m.display pairs time) := by
  rw [Engine.recordDisplayed_of_utc (Timestamp.utc_ofInstant time)]
  unfold Showings.display
  split
  · exact ⟨rs, h⟩
  · exact h.recordMany pairs time

/-! ## Impressions -/

theorem Tracker.mem_of_mem_due {t : Tracker} {cards due : List ShownCard} {now : Timestamp}
    (h : t.due cards now = .ok due) {c : ShownCard} (hc : c ∈ due) : c ∈ cards :=
  List.mem_of_mem_filter (Outcome.mem_of_mem_filterM h hc)

namespace Impressions

variable {s : Impressions} {cards recorded : List ShownCard} {now : Timestamp}

/-- The store after the cards were displayed. -/
def storeAfter (store : Store) (cards : List ShownCard) (now : Timestamp) : Store :=
  (Engine.recordDisplayed (cards.map ShownCard.pair) store now).2

theorem recordThem_ok (h : (s.recordThem cards now).1 = .ok recorded) : recorded = cards := by
  unfold recordThem at h
  dsimp only at h
  cases hdone : (s.record cards now).1 with
  | error e =>
    rw [hdone] at h
    cases h
  | ok =>
    rw [hdone] at h
    cases h
    rfl

theorem recordAll_ok (h : (s.recordAll cards now).1 = .ok recorded) :
    recorded ⊆ cards ∧ (s.recordAll cards now).2.store = storeAfter s.store recorded now := by
  rw [recordThem_ok h]
  exact ⟨fun c hc => List.mem_of_mem_filter hc, rfl⟩

theorem recordDue_ok (h : (s.recordDue cards now).1 = .ok recorded) :
    recorded ⊆ cards ∧ (s.recordDue cards now).2.store = storeAfter s.store recorded now := by
  unfold recordDue at h ⊢
  cases hdue : s.tracker.due cards now with
  | error e =>
    rw [hdue] at h
    cases h
  | ok due =>
    rw [hdue] at h
    rw [recordThem_ok h]
    exact ⟨fun c hc => Tracker.mem_of_mem_due hdue hc, rfl⟩

end Impressions

namespace Service

/-- Displays are two writes, of the cards that count as seen at once and of those that
were visible long enough. -/
theorem display_spec {threshold : Number} {cards : List (ShownCard × DisplayedCard)} {time : Instant}
    {store : Store} {d : Display} (h : display threshold cards time store = .ok d) :
    ∃ first second : List ShownCard, d.recorded = first ++ second ∧
      d.recorded ⊆ cards.map (·.1) ∧
      d.store = Impressions.storeAfter
        (Impressions.storeAfter store first (Timestamp.ofInstant time)) second
        (Timestamp.ofInstant time) := by
  unfold display at h
  obtain ⟨tracker, -, h⟩ := Outcome.bind_eq_ok.mp h
  dsimp only at h
  obtain ⟨first, hfirst, h⟩ := Outcome.bind_eq_ok.mp h
  obtain ⟨second, hsecond, h⟩ := Outcome.bind_eq_ok.mp h
  cases h
  obtain ⟨hseen, hstore₁⟩ := Impressions.recordAll_ok hfirst
  obtain ⟨htimed, hstore₂⟩ := Impressions.recordDue_ok hsecond
  refine ⟨first, second, rfl, ?_, by rw [hstore₂, hstore₁]⟩
  have hpart (keep : ShownCard × DisplayedCard → Bool) :
      (cards.filter keep).map (·.1) ⊆ cards.map (·.1) :=
    List.map_subset _ (List.filter_subset_self cards)
  exact List.append_subset.mpr
    ⟨List.Subset.trans hseen (hpart _), List.Subset.trans htimed (hpart _)⟩

/-- The cards of a report are those of its child. -/
theorem childId_of_mem_firstOfEach {cards : List DisplayedCard} {childId : String} {c : ShownCard}
    (h : c ∈ (firstOfEach cards childId).map (·.1)) : c.childId = childId := by
  obtain ⟨entry, hentry, rfl⟩ := List.mem_map.mp h
  obtain ⟨card, -, rfl⟩ := List.mem_map.mp (Order.mem_of_mem_eraseDupsBy hentry)
  rfl

/-! ## The stored text -/

/-- The stored text holds the map. -/
def HoldsShowings (s : Server) (m : Showings) : Prop := ∃ rs, s.store.Holds .standard rs m

variable {s : Server}

/-- What the service holds does not hang on the tables beside the text. -/
theorem HoldsShowings.of_store {s' : Server} {m : Showings} (h : HoldsShowings s m)
    (hstore : s'.store = s.store) : HoldsShowings s' m := by
  rwa [HoldsShowings, hstore]

theorem HoldsShowings.stored {store : Store} {rs : List Record} {m : Showings}
    (h : store.Holds .standard rs m) (s : Server) :
    HoldsShowings { s with tables := { s.tables with cooldowns := store.text } } m :=
  ⟨rs, rfl, h.back, h.text, Or.inl rfl, h.lists, h.ends⟩

/-- Displays of cards are written into the map. -/
theorem HoldsShowings.display {m : Showings} (h : HoldsShowings s m)
    {threshold : Number} {cards : List (ShownCard × DisplayedCard)} {time : Instant} {d : Display}
    (hd : Service.display threshold cards time s.store = .ok d) :
    ∃ first second : List ShownCard, d.recorded = first ++ second ∧
      d.recorded ⊆ cards.map (·.1) ∧
      HoldsShowings { s with tables := { s.tables with cooldowns := d.store.text } }
        ((m.display (first.map ShownCard.pair) time).display (second.map ShownCard.pair) time) := by
  obtain ⟨rs, hholds⟩ := h
  obtain ⟨first, second, hrecorded, hcards, hstore⟩ := display_spec hd
  obtain ⟨rs₁, hfirst⟩ := hholds.display (first.map ShownCard.pair) time
  obtain ⟨rs₂, hsecond⟩ := hfirst.display (second.map ShownCard.pair) time
  refine ⟨first, second, hrecorded, hcards, ?_⟩
  rw [hstore]
  exact .stored hsecond s

namespace Server

/-- Each request that changes the text is a report of displays. -/
theorem Served.holdsShowings {q : Request} {reply : Reply} {t : Tables}
    (h : Served s q reply t) {m : Showings} (hm : HoldsShowings s m) :
    ∃ m', HoldsShowings { s with tables := t } m' := by
  cases h with
  | unchanged => exact ⟨m, hm⟩
  | child => exact ⟨m, hm⟩
  | behavior => exact ⟨m, hm⟩
  | @reward r active => exact ⟨m, hm.of_store (by cases active <;> rfl)⟩
  | @moments fs =>
    obtain ⟨logged, -, htables, -⟩ := s.logMoments_run fs
    rw [htables]
    exact ⟨m, hm⟩
  | displayed _ _ _ hd =>
    obtain ⟨first, second, -, -, hholds⟩ := hm.display hd
    exact ⟨_, hholds⟩

/-! ## States -/

/-- The states of a service that starts with empty tables. -/
inductive Reached : Server → Prop
  | fresh (settings : Settings) (clock : Instant) : Reached { settings, clock }
  | request {s : Server} (q : Request) : Reached s → Reached (s.handle q).2
  | clock {s : Server} (time : Instant) : Reached s → Reached { s with clock := time }
  | reachable {s : Server} (r : Bool) : Reached s → Reached { s with reachable := r }

/-- Whatever happened, the stored text holds a map. -/
theorem Reached.holdsShowings (h : Reached s) : ∃ m, HoldsShowings s m := by
  induction h with
  | fresh settings clock =>
    exact ⟨Showings.empty, [], Cooldown.Store.holds_empty rfl rfl rfl rfl⟩
  | @request s q _ ih =>
    obtain ⟨m, hm⟩ := ih
    obtain ⟨reply, hserved, -⟩ := handle_served s q
    obtain ⟨m', hm'⟩ := hserved.holdsShowings hm
    exact ⟨m', hm'.of_store (by rw [store, (sameSetting_handle s q).settings]; rfl)⟩
  | clock _ _ ih => exact ih
  | reachable _ _ ih => exact ih

end Server

end Service

end MomentInsights
