-- Writes of displays at one time. Two of them leave what one does that names the pairs of
-- the first that the second does not name, and then those of the second. So a write that
-- is made again changes nothing, whatever the text held before.
import MomentInsights.Proofs.LateReports

namespace MomentInsights

namespace Cooldown.Store

variable {p : Periods} {s s' : Store} {rs : List Record} {time : Instant}
  {first second pairs : List (String × String)}

/-! ## Records of pairs -/

/-- The pairs of two writes, in the order in which they are left. -/
def merged (first second : List (String × String)) : List (String × String) :=
  first.filter (!second.contains ·) ++ second

theorem mem_merged {pair : String × String} :
    pair ∈ merged first second ↔ pair ∈ first ∨ pair ∈ second := by
  unfold merged
  by_cases h : pair ∈ second <;> simp [h]

theorem merged_self (pairs : List (String × String)) : merged pairs pairs = pairs := by
  have hnone : pairs.filter (!pairs.contains ·) = [] := by
    rw [List.filter_eq_nil_iff]
    intro pair hpair
    simp [hpair]
  rw [merged, hnone, List.nil_append]

theorem any_isFor_iff {r : Record} :
    pairs.eraseDups.any r.isFor = true ↔ ∃ pair ∈ pairs, r.isFor pair = true := by
  simp only [List.any_eq_true, List.mem_eraseDups]

/-- The records of neither write. -/
theorem others_merged (rs : List Record) :
    (rs.filter fun r => !(merged first second).eraseDups.any r.isFor) =
      (rs.filter fun r => !first.eraseDups.any r.isFor).filter fun r =>
        !second.eraseDups.any r.isFor := by
  rw [List.filter_filter]
  apply List.filter_congr
  intro r _
  have hany : (merged first second).eraseDups.any r.isFor =
      (second.eraseDups.any r.isFor || first.eraseDups.any r.isFor) := by
    rw [Bool.eq_iff_iff, Bool.or_eq_true, any_isFor_iff, any_isFor_iff, any_isFor_iff]
    constructor
    · rintro ⟨pair, hpair, hfor⟩
      rcases mem_merged.mp hpair with hfirst | hsecond
      · exact Or.inr ⟨pair, hfirst, hfor⟩
      · exact Or.inl ⟨pair, hsecond, hfor⟩
    · rintro (⟨pair, hpair, hfor⟩ | ⟨pair, hpair, hfor⟩)
      · exact ⟨pair, mem_merged.mpr (Or.inr hpair), hfor⟩
      · exact ⟨pair, mem_merged.mpr (Or.inl hpair), hfor⟩
  rw [hany, Bool.not_or]

/-- The fresh records of two writes: those that only the first makes stay in front. -/
theorem fresh_merged (time : Instant) :
    (merged first second).eraseDups.map (Record.ofPair · time) =
      ((first.eraseDups.map (Record.ofPair · time)).filter fun r =>
        !second.eraseDups.any r.isFor) ++ second.eraseDups.map (Record.ofPair · time) := by
  have hapart : second.removeAll (first.filter (!second.contains ·)) = second := by
    unfold List.removeAll
    rw [List.filter_eq_self]
    intro pair hpair
    simp [hpair]
  have hnamed : (fun r : Record => !second.eraseDups.any r.isFor) ∘ (Record.ofPair · time) =
      (!second.contains ·) := by
    funext pair
    have hany : second.eraseDups.any (Record.ofPair pair time).isFor = second.contains pair := by
      rw [Bool.eq_iff_iff, any_isFor_iff, List.contains_iff_mem]
      constructor
      · rintro ⟨pair', hpair', hfor⟩
        rwa [isFor_ofPair.mp hfor]
      · intro hpair
        exact ⟨pair, hpair, isFor_ofPair.mpr rfl⟩
    rw [Function.comp_apply, hany]
  rw [merged, List.eraseDups_append, hapart, List.map_append, Order.eraseDups_filter,
    List.filter_map, hnamed]

/-- Two writes at one time are one. -/
theorem kept_kept (p : Periods) (rs : List Record) (first second : List (String × String))
    (time : Instant) :
    kept p (kept p rs first time) second time = kept p rs (merged first second) time := by
  have hswap (keep keep' : Record → Bool) (xs : List Record) :
      (xs.filter keep).filter keep' = (xs.filter keep').filter keep := by
    rw [List.filter_filter, List.filter_filter]
    simp only [Bool.and_comm]
  have hagain (keep : Record → Bool) (xs : List Record) :
      (xs.filter keep).filter keep = xs.filter keep := by
    rw [List.filter_filter]
    simp only [Bool.and_self]
  unfold kept
  rw [others_merged, fresh_merged, hswap, List.filter_append, List.filter_append, hagain,
    List.filter_append]
  simp only [List.filter_append, List.append_assoc]

/-! ## Reports -/

theorem neg_eq_ok {d e : Duration} (h : d.neg = .ok e) : e = ⟨-d.micros⟩ := by
  unfold Duration.neg Duration.bounded at h
  split at h
  · exact (Except.ok.inj h).symm
  · cases h

/-- A report whose rest has no end is not written. -/
theorem record_left (hend : s.periods.hasEnd time = false) : s.record ⟨pairs, time⟩ = .ok s := by
  unfold record recordMany
  rw [hend]
  rfl

/-- Another one is written if the text can be read. -/
theorem record_written (hend : s.periods.hasEnd time = true) :
    s.record ⟨pairs, time⟩ = .ok s' ↔ ∃ rs, decode s.periods s.room s.text = .ok rs ∧
      s.periods.retention.neg = .ok ⟨-s.periods.retention.micros⟩ ∧
      s' = s.save (kept s.periods rs pairs time) := by
  unfold record recordMany
  simp only [hend, Bool.not_true, Bool.false_eq_true, if_false]
  rw [decode_locked, locked_periods]
  cases hdecode : decode s.periods s.room s.text with
  | error e => simp [Except.map]
  | ok rs =>
    cases hneg : s.periods.retention.neg with
    | error e => simp [recorded, hneg, Except.map]
    | ok back =>
      obtain rfl := neg_eq_ok hneg
      rw [Outcome.ok_bind, recorded_eq hneg]
      simp [Except.map, locked_save, eq_comm]

/-- Two reports of one time are one. -/
theorem record_merged {s'' : Store} :
    (∃ s', s.record ⟨first, time⟩ = .ok s' ∧ s'.record ⟨second, time⟩ = .ok s'') ↔
      s.record ⟨merged first second, time⟩ = .ok s'' := by
  cases hend : s.periods.hasEnd time with
  | false =>
    rw [record_left hend, record_left hend]
    constructor
    · rintro ⟨_, hfirst, hsecond⟩
      cases hfirst
      rwa [record_left hend] at hsecond
    · intro hsame
      cases hsame
      exact ⟨s, rfl, record_left hend⟩
  | true =>
    have hwritten {rs : List Record} (hdecode : decode s.periods s.room s.text = .ok rs) :
        decode s.periods s.room (some (encode (kept s.periods rs first time))) =
          .ok (kept s.periods rs first time) :=
      decode_encode (readsBack_of_mem_kept (readsBack_of_decode hdecode) hend) s.room
    have hsaved (rs : List Record) : (s.save rs).periods.hasEnd time = true := hend
    rw [record_written hend]
    constructor
    · rintro ⟨_, hfirst, hsecond⟩
      obtain ⟨rs, hdecode, hneg, rfl⟩ := (record_written hend).mp hfirst
      obtain ⟨rs', hdecode', -, rfl⟩ := (record_written (hsaved _)).mp hsecond
      cases (hwritten hdecode).symm.trans hdecode'
      refine ⟨rs, hdecode, hneg, ?_⟩
      rw [← kept_kept]
      rfl
    · rintro ⟨rs, hdecode, hneg, rfl⟩
      refine ⟨_, (record_written hend).mpr ⟨rs, hdecode, hneg, rfl⟩, ?_⟩
      refine (record_written (hsaved _)).mpr ⟨_, hwritten hdecode, hneg, ?_⟩
      rw [← kept_kept]
      rfl

/-- A report that was written changes nothing when it is written again. -/
theorem record_again (h : s.record ⟨pairs, time⟩ = .ok s') : s'.record ⟨pairs, time⟩ = .ok s' := by
  have hmerged : s.record ⟨merged pairs pairs, time⟩ = .ok s' := by rw [merged_self, h]
  obtain ⟨s₁, hfirst, hsecond⟩ := record_merged.mpr hmerged
  cases h.symm.trans hfirst
  exact hsecond

/-- It changes nothing either of another store that finds the text it left. -/
theorem record_again_of_text {s₁ : Store} (h : s.record ⟨pairs, time⟩ = .ok s')
    (hperiods : s₁.periods = s.periods) (htext : s₁.text = s'.text) :
    ∃ s₁', s₁.record ⟨pairs, time⟩ = .ok s₁' ∧ s₁'.text = s₁.text := by
  cases hend : s.periods.hasEnd time with
  | false => exact ⟨s₁, record_left (by rw [hperiods, hend]), rfl⟩
  | true =>
    obtain ⟨rs, hdecode, hneg, rfl⟩ := (record_written hend).mp h
    have hread : decode s₁.periods s₁.room s₁.text = .ok (kept s.periods rs pairs time) := by
      rw [htext, hperiods]
      exact decode_encode (readsBack_of_mem_kept (readsBack_of_decode hdecode) hend) s₁.room
    rw [← hperiods] at hend hneg hread
    refine ⟨_, (record_written hend).mpr ⟨_, hread, hneg, rfl⟩, ?_⟩
    rw [kept_kept, merged_self, htext, hperiods]
    rfl

/-! ## Displays -/

/-- The store after the templates were displayed to the children. -/
def displayed (s : Store) (pairs : List (String × String)) (time : Instant) :
    Except Failure Store :=
  let (done, s) := Engine.recordDisplayed pairs s (Timestamp.ofInstant time)
  done.map fun _ => s

theorem store_of_displayed (h : s.displayed pairs time = .ok s') :
    (Engine.recordDisplayed pairs s (Timestamp.ofInstant time)).2 = s' := by
  unfold displayed at h
  dsimp only at h
  cases hdone : (Engine.recordDisplayed pairs s (Timestamp.ofInstant time)).1 with
  | error f =>
    rw [hdone] at h
    cases h
  | ok =>
    rw [hdone] at h
    exact Except.ok.inj h

theorem displayed_eq (s : Store) (pairs : List (String × String)) (time : Instant) :
    s.displayed pairs time = if pairs = [] then .ok s else s.record ⟨pairs, time⟩ := by
  unfold displayed
  rw [Engine.recordDisplayed_of_utc (Timestamp.utc_ofInstant time)]
  cases pairs <;> rfl

theorem displayed_merged {s'' : Store} :
    (∃ s', s.displayed first time = .ok s' ∧ s'.displayed second time = .ok s'') ↔
      s.displayed (merged first second) time = .ok s'' := by
  simp only [displayed_eq]
  by_cases hfirst : first = []
  · subst hfirst
    simp [merged]
  · by_cases hsecond : second = []
    · subst hsecond
      simp [merged, hfirst]
    · have hmerged : merged first second ≠ [] := by simp [merged, hsecond]
      simp only [hfirst, hsecond, hmerged, if_false]
      exact record_merged

theorem displayed_again (h : s.displayed pairs time = .ok s') :
    s'.displayed pairs time = .ok s' := by
  rw [displayed_eq] at h ⊢
  split
  · rfl
  · rename_i hpairs
    rw [if_neg hpairs] at h
    exact record_again h

theorem displayed_again_of_text (s₁ : Store) (h : s.displayed pairs time = .ok s')
    (hperiods : s₁.periods = s.periods) (htext : s₁.text = s'.text) :
    ∃ s₁', s₁.displayed pairs time = .ok s₁' ∧ s₁'.text = s₁.text := by
  rw [displayed_eq] at h ⊢
  split
  · exact ⟨s₁, rfl, rfl⟩
  · rename_i hpairs
    rw [if_neg hpairs] at h
    exact record_again_of_text h hperiods htext

end Cooldown.Store

end MomentInsights
