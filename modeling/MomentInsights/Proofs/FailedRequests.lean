-- Requests that fail. A failed request leaves the stored records as they were, but for
-- two kinds: a batch that ends at a moment whose values cannot be stored has stored those
-- before it, and displays were stored before their reply turned out not to be text.
import MomentInsights.Proofs.MomentBatch

namespace MomentInsights.Service

/-! ## Replies -/

theorem not_failed_json {status : Nat} {j : Json} (hj : j.isEncodable = true)
    (hstatus : status < 400) : ¬ 400 ≤ (Reply.json status j).encoded.status := by
  rw [encoded_json hj]
  exact Nat.not_le.mpr hstatus

theorem encoded_eq_or_failed (r : Reply) : r.encoded = r ∨ r.encoded = .failed := by
  unfold Reply.encoded
  split
  · split
    · exact Or.inl rfl
    · exact Or.inr rfl
  · exact Or.inl rfl

theorem isEncodable_text (w : WideText) : (Json.text w).isEncodable = w.string?.isSome := by
  unfold Json.text
  cases h : w.string? with
  | some s => rfl
  | none => simp [h]

theorem isEncodable_strings (xs : List String) : (Json.strings xs).isEncodable = true := by
  rw [Json.strings, Json.isEncodable, Json.allEncodable_iff]
  intro j hj
  obtain ⟨x, -, rfl⟩ := List.mem_map.mp hj
  rfl

theorem mem_inOrder {α : Type} [Ord α] {xs : List α} {x : α} : x ∈ inOrder xs ↔ x ∈ xs :=
  List.mem_mergeSort

namespace Server

variable {s : Server} {q : Request}

theorem isEncodable_notSeen {ids : List WideText} (h : ∀ id ∈ ids, id.string? ≠ none) :
    Json.allEncodable (ids.map Json.text) = true := by
  rw [Json.allEncodable_iff]
  intro j hj
  obtain ⟨id, hid, rfl⟩ := List.mem_map.mp hj
  rw [isEncodable_text]
  exact Option.isSome_iff_ne_none.mpr (h id hid)

/-- The reply to displays shows the ids of the cards that were visible too shortly. -/
theorem encoded_displayedReply (childId : String) (time : Instant) {d : Display}
    (h : ∀ card ∈ d.notSeen, card.id.string? ≠ none) :
    (displayedReply childId time d).encoded = displayedReply childId time d := by
  have hids : ∀ id ∈ inOrder (d.notSeen.map (·.id)), id.string? ≠ none := by
    intro id hid
    obtain ⟨card, hcard, rfl⟩ := List.mem_map.mp (mem_inOrder.mp hid)
    exact h card hcard
  apply encoded_json
  simp [instantJson, isEncodable_strings, isEncodable_notSeen hids]

/-! ## Failures -/

/-- A batch came to a moment that ends it. -/
def EndsBatch (s : Server) (q : Request) (t : Tables) : Prop :=
  ∃ fs logged, q.GoesTo .momentBatch ∧ q.form s.settings.bodyDepth checkBatch = .ok fs ∧
    s.HaltsBehind fs logged ∧
    t = s.tables.withMoments (storedOf logged)

/-- The displays of a child were stored, and the reply shows an id that is no text: that
of a card that was visible too shortly. -/
def DropsReply (s : Server) (q : Request) (t : Tables) : Prop :=
  ∃ childId f d, q.GoesTo (.displayed childId) ∧
    q.form s.settings.bodyDepth DisplayedForm.check = .ok f ∧
    display s.settings.threshold (firstOfEach f.cards childId) (f.time.getD s.clock)
      s.store = .ok d ∧
    (∃ card ∈ d.notSeen, card.id.string? = none) ∧
    t = { s.tables with cooldowns := d.store.text }

theorem Served.of_failed {reply : Reply} {t : Tables} (h : Served s q reply t)
    (hfailed : 400 ≤ reply.encoded.status) :
    t = s.tables ∨ reply.encoded = .failed ∧ (s.EndsBatch q t ∨ s.DropsReply q t) := by
  cases h with
  | unchanged => exact Or.inl rfl
  | child => exact absurd hfailed (not_failed_json (isEncodable_child _) (by decide))
  | behavior => exact absurd hfailed (not_failed_json (isEncodable_behavior _) (by decide))
  | reward => exact absurd hfailed (not_failed_json (isEncodable_reward _) (by decide))
  | @moments fs hq hform =>
    obtain ⟨logged, -, htables, ⟨-, hsome⟩ | ⟨hhalts, hnone⟩⟩ := s.logMoments_run fs
    · rw [hsome, Option.elim_some, encoded_batchReply] at hfailed
      exact absurd hfailed (show ¬ 400 ≤ 207 by decide)
    · rw [hnone, Option.elim_none]
      exact Or.inr ⟨rfl, Or.inl ⟨fs, logged, hq, hform, hhalts, htables⟩⟩
  | @displayed childId f d hq hform hchild hd =>
    rcases encoded_eq_or_failed (displayedReply childId (f.time.getD s.clock) d) with hsame | hfail
    · rw [hsame] at hfailed
      exact absurd hfailed (show ¬ 400 ≤ 200 by decide)
    · refine Or.inr ⟨hfail, Or.inr ⟨childId, f, d, hq, hform, hd, ?_, rfl⟩⟩
      by_contra hids
      push Not at hids
      rw [encoded_displayedReply _ _ hids] at hfail
      exact absurd (congrArg Reply.status hfail) (show ¬ 200 = 500 by decide)

/-- A request that fails leaves all records as they were, unless it is a batch that came
to a moment that ends it, or a report of displays with an id that is no text. -/
theorem failed_request_changes_nothing (hfailed : 400 ≤ (s.handle q).1.status) :
    (s.handle q).2.tables = s.tables ∨
      (s.handle q).1 = .failed ∧
        (s.EndsBatch q (s.handle q).2.tables ∨ s.DropsReply q (s.handle q).2.tables) := by
  obtain ⟨reply, hserved, hreply | hnowhere⟩ := s.handle_served q
  · rw [hreply] at hfailed ⊢
    exact hserved.of_failed hfailed
  · rw [handle_elsewhere hnowhere]
    exact Or.inl rfl

theorem failed_request_changes_nothing_early :
    (oneChild.handle earlyBatch).1 = .failed ∧
      oneChild.EndsBatch earlyBatch (oneChild.handle earlyBatch).2.tables := by
  have hfailed : 400 ≤ (oneChild.handle earlyBatch).1.status := by decide +kernel
  have hstored : (oneChild.handle earlyBatch).2.tables.moments.length = 1 := by decide +kernel
  rcases failed_request_changes_nothing hfailed with hsame | ⟨hreply, hbatch | hdisplays⟩
  · rw [hsame] at hstored
    cases hstored
  · exact ⟨hreply, hbatch⟩
  · obtain ⟨childId, -, -, hq, -⟩ := hdisplays
    have hbatch : earlyBatch.GoesTo .momentBatch := by decide +kernel
    cases hbatch.unique hq

/-- The first moment of a batch stays stored, though the request fails with the second. -/
theorem failed_batch_stores_moment :
    ¬ ∀ (s : Server) (q : Request), 400 ≤ (s.handle q).1.status →
      (s.handle q).2.tables = s.tables := by
  intro hall
  have hsame := hall oneChild earlyBatch (by decide +kernel)
  have hstored : (oneChild.handle earlyBatch).2.tables.moments.length = 1 := by decide +kernel
  rw [hsame] at hstored
  cases hstored

end Server

end MomentInsights.Service
