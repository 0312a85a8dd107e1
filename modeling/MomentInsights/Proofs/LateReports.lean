-- Reports of displays that arrive late. A report puts its own time in the place of
-- whatever was stored for the pair, so of several reports the one written last counts,
-- also where an earlier one tells of a later display.
import MomentInsights.Proofs.CooldownHistory
import MomentInsights.Proofs.DamagedText

namespace MomentInsights.Cooldown

/-! ## Reports -/

/-- The pairs that one call reports, and when they were shown. -/
structure Showing where
  pairs : List (String × String)
  time : Instant

namespace Store

/-- The store after the report. -/
def record (s : Store) (report : Showing) : Except Failure Store :=
  let (done, s) := s.recordMany report.pairs report.time
  done.map fun _ => s

/-- When the rest of the pair ends, after the reports were written in this order. -/
def endAfter (s : Store) (reports : List Showing) (pair : String × String) :
    Except Failure (Option Instant) := do
  let s ← reports.foldlM record s
  let (ends, _) ← s.cooldownEnd pair.1 pair.2
  return ends

/-! ## What a report leaves -/

variable {s : Store} {p : Periods} {rs : List Record}

theorem isFor_of_mem_kept {pairs : List (String × String)} {time : Instant} {pair : String × String}
    (hpair : pair ∈ pairs) {r : Record} (hr : r ∈ kept p rs pairs time)
    (hfor : r.isFor pair = true) : r = Record.ofPair pair time := by
  unfold kept at hr
  rcases List.mem_append.mp (List.mem_of_mem_filter hr) with hold | hfresh
  · have hany : pairs.eraseDups.any r.isFor = true :=
      List.any_eq_true.mpr ⟨pair, List.mem_eraseDups.mpr hpair, hfor⟩
    simp [hany] at hold
  · obtain ⟨pair', -, rfl⟩ := List.mem_map.mp hfresh
    rw [isFor_ofPair.mp hfor]

/-- A pair that was just shown is found with its new record, whatever was stored. -/
theorem find?_kept {pairs : List (String × String)} {time : Instant} {pair : String × String}
    (hpair : pair ∈ pairs) (hyoung : time.back p.retention < time) :
    find? (kept p rs pairs time) pair.1 pair.2 = some (Record.ofPair pair time) := by
  have hmem : Record.ofPair pair time ∈ kept p rs pairs time := by
    unfold kept
    rw [List.mem_filter, List.mem_append, List.mem_map]
    exact ⟨Or.inr ⟨pair, List.mem_eraseDups.mpr hpair, rfl⟩, decide_eq_true hyoung⟩
  have hsome : (find? (kept p rs pairs time) pair.1 pair.2).isSome = true := by
    unfold find?
    rw [List.find?_isSome]
    exact ⟨_, hmem, isFor_ofPair.mpr rfl⟩
  obtain ⟨r, hr⟩ := Option.isSome_iff_exists.mp hsome
  have hfor : r.isFor pair = true := by
    have := List.find?_some hr
    exact this
  rw [hr, isFor_of_mem_kept hpair (List.mem_of_find?_eq_some hr) hfor]

theorem readsBack_of_mem_kept {pairs : List (String × String)} {time : Instant}
    (hrs : ∀ r ∈ rs, p.ReadsBack r) (hend : p.hasEnd time = true) :
    ∀ r ∈ kept p rs pairs time, p.ReadsBack r := by
  intro r hr
  rcases mem_of_mem_kept hr with hold | ⟨pair, -, rfl⟩
  · exact hrs r hold
  · exact readsBack_ofPair hend pair

/-- A store whose text can be read takes every report, and its text can be read again. -/
theorem record_total (hback : s.periods.retention.neg = .ok ⟨-s.periods.retention.micros⟩)
    (hdecode : decode s.periods s.room s.text = .ok rs) (report : Showing) :
    ∃ s' rs', s.record report = .ok s' ∧ s'.periods = s.periods ∧
      decode s.periods s'.room s'.text = .ok rs' := by
  unfold record
  rw [recordMany_of_decode hback hdecode]
  cases hend : s.periods.hasEnd report.time with
  | false => exact ⟨s, rs, rfl, rfl, hdecode⟩
  | true =>
    exact ⟨_, _, rfl, rfl,
      decode_encode (readsBack_of_mem_kept (readsBack_of_decode hdecode) hend) _⟩

theorem endAfter_one (hback : s.periods.retention.neg = .ok ⟨-s.periods.retention.micros⟩)
    (hdecode : decode s.periods s.room s.text = .ok rs) {last : Showing} {pair : String × String}
    (hpair : pair ∈ last.pairs) (hend : s.periods.hasEnd last.time = true)
    (hyoung : last.time.back s.periods.retention < last.time) :
    s.endAfter [last] pair = .ok (some (last.time.shift s.periods.rest)) := by
  unfold endAfter record
  rw [List.foldlM_cons, recordMany_of_decode hback hdecode, hend, if_pos rfl]
  have hrecords : (s.save (kept s.periods rs last.pairs last.time)).records =
      .ok (kept s.periods rs last.pairs last.time,
        s.save (kept s.periods rs last.pairs last.time)) := rfl
  simp only [Except.map, List.foldlM_nil, Outcome.ok_bind, Outcome.pure_eq_ok]
  rw [cooldownEnd_of_records hrecords, find?_kept hpair hyoung]
  rfl

/-- Whatever is stored and whatever was reported before, the last report tells when the
rest of its pairs ends. -/
theorem endAfter_snoc (hback : s.periods.retention.neg = .ok ⟨-s.periods.retention.micros⟩)
    (hdecode : decode s.periods s.room s.text = .ok rs) (reports : List Showing) {last : Showing}
    {pair : String × String} (hpair : pair ∈ last.pairs) (hend : s.periods.hasEnd last.time = true)
    (hyoung : last.time.back s.periods.retention < last.time) :
    s.endAfter (reports ++ [last]) pair = .ok (some (last.time.shift s.periods.rest)) := by
  induction reports generalizing s rs with
  | nil => exact endAfter_one hback hdecode hpair hend hyoung
  | cons report reports ih =>
    obtain ⟨s', rs', hrecord, hperiods, hdecode'⟩ := record_total hback hdecode report
    have hstep : s.endAfter (report :: reports ++ [last]) pair =
        s'.endAfter (reports ++ [last]) pair := by
      unfold endAfter
      rw [List.cons_append, List.foldlM_cons, hrecord, Outcome.ok_bind]
    rw [← hperiods] at hback hdecode' hend hyoung ⊢
    rw [hstep, ih hback hdecode' hend hyoung]

end Store

/-! ## Reports at supported times -/

theorem endOf_supported {time : Instant} (h : time.Supported) :
    ((time.shift Periods.standard.rest).micros : Int) =
      time.micros + (Duration.days 3).micros := by
  have hlt : time.micros < 283980988800000000 := h.2
  have hdays : (Duration.days 3).micros = 259200000000 := rfl
  have hcount : (Instant.count : Int) = 315537897600000000 := rfl
  have hrest : Periods.standard.rest = Duration.days 3 := rfl
  rw [hrest, Instant.shift_micros, hdays, hcount]
  omega

/-- A record of a supported time is not yet out of retention then. -/
theorem back_lt_of_supported {time : Instant} (h : time.Supported) :
    time.back Periods.standard.retention < time := by
  have hmicros := Engine.back_of_supported h.1
  have hdays : (0 : Int) < (Duration.days 30).micros := by decide
  change (time.back Periods.standard.retention).micros < time.micros
  omega

theorem endAfter_supported {s : Store} (hperiods : s.periods = .standard) (htext : s.Readable)
    (reports : List Showing) {last : Showing} {pair : String × String} (hpair : pair ∈ last.pairs)
    (htime : last.time.Supported) :
    ∃ ends, s.endAfter (reports ++ [last]) pair = .ok (some ends) ∧
      (ends.micros : Int) = last.time.micros + (Duration.days 3).micros := by
  have hback : s.periods.retention.neg = .ok ⟨-s.periods.retention.micros⟩ := by
    rw [hperiods]
    rfl
  have hyoung : last.time.back s.periods.retention < last.time := by
    rw [hperiods]
    exact back_lt_of_supported htime
  have hend : s.periods.hasEnd last.time = true := by
    rw [hperiods]
    exact Engine.hasEnd_of_supported htime.2
  refine ⟨_, Store.endAfter_snoc hback (decode_readable htext) reports hpair hend hyoung, ?_⟩
  rw [hperiods]
  exact endOf_supported htime

/-- Of two reports of a pair the one written last tells when the rest ends, whatever was
stored before. So their order matters unless they tell of one instant, and the later
display counts just when its report is not the first. -/
theorem last_report_counts {s : Store} (hperiods : s.periods = .standard) (htext : s.Readable)
    {first second : Showing} {pair : String × String} (hfirst : pair ∈ first.pairs)
    (hsecond : pair ∈ second.pairs) (htime₁ : first.time.Supported)
    (htime₂ : second.time.Supported) :
    ∃ ends ends' : Instant,
      s.endAfter [first, second] pair = .ok (some ends) ∧
      s.endAfter [second, first] pair = .ok (some ends') ∧
      (ends.micros : Int) = second.time.micros + (Duration.days 3).micros ∧
      (ends'.micros : Int) = first.time.micros + (Duration.days 3).micros ∧
      (ends = ends' ↔ first.time = second.time) ∧
      ((ends.micros : Int) = max first.time.micros second.time.micros + (Duration.days 3).micros ↔
        first.time ≤ second.time) := by
  obtain ⟨ends, hends, hmicros⟩ := endAfter_supported hperiods htext [first] hsecond htime₂
  obtain ⟨ends', hends', hmicros'⟩ := endAfter_supported hperiods htext [second] hfirst htime₁
  refine ⟨ends, ends', hends, hends', hmicros, hmicros', ⟨?_, ?_⟩, ?_⟩
  · rintro rfl
    have hsame : first.time.micros = second.time.micros := by omega
    cases hf : first.time
    cases hs : second.time
    simp_all
  · intro hsame
    rw [hsame] at hmicros'
    have heq : ends.micros = ends'.micros := by omega
    cases ends
    cases ends'
    simp_all
  · rw [hmicros]
    show _ ↔ first.time.micros ≤ second.time.micros
    omega

def stalledPair : String × String := ("goal_stalled", "c1")

def thirdDay : Instant := Instant.epoch.shift (Duration.days 2)

def stalledAt (time : Instant) : Showing := ⟨[stalledPair], time⟩

theorem stalledAt_pair (time : Instant) : stalledPair ∈ (stalledAt time).pairs := by
  simp [stalledAt]

theorem readable_empty : ({} : Store).Readable := by
  intro item hitem
  cases hitem

theorem last_report_counts_thirdDay :
    thirdDay.Supported ∧ Instant.epoch.Supported ∧ ({} : Store).Readable ∧
      ∃ ends, ({} : Store).endAfter [⟨[stalledPair, ("routine_forming", "c1")], thirdDay⟩,
          ⟨[stalledPair], Instant.epoch⟩] stalledPair = .ok (some ends) ∧
        (ends.micros : Int) = Instant.epoch.micros + (Duration.days 3).micros := by
  have hlate : thirdDay.Supported := by decide
  have hearly : Instant.epoch.Supported := by decide
  obtain ⟨ends, -, hends, -, hmicros, -⟩ := @last_report_counts {} rfl readable_empty
    ⟨[stalledPair, ("routine_forming", "c1")], thirdDay⟩ ⟨[stalledPair], Instant.epoch⟩ stalledPair
    (by simp) (by simp) hlate hearly
  exact ⟨hlate, hearly, readable_empty, ends, hends, hmicros⟩

/-- A display of the third day is reported, then one of the first day: the rest ends two
days sooner than it does the other way round. -/
theorem late_report_shortens_rest :
    ¬ ∀ (s : Store) (rs : List Record) (pair : String × String) (first second : Instant),
      s.periods = .standard → decode s.periods s.room s.text = .ok rs →
      (rs.Pairwise fun r r' => ¬ r.samePair r') → first.Supported → second.Supported →
      s.endAfter [⟨[pair], first⟩, ⟨[pair], second⟩] pair =
        s.endAfter [⟨[pair], second⟩, ⟨[pair], first⟩] pair := by
  intro hall
  have hearly : (stalledAt Instant.epoch).time.Supported := by decide
  have hlate : (stalledAt thirdDay).time.Supported := by decide
  obtain ⟨ends, hends, hmicros⟩ := endAfter_supported (s := {}) rfl readable_empty
    [stalledAt thirdDay] (stalledAt_pair Instant.epoch) hearly
  obtain ⟨ends', hends', hmicros'⟩ := endAfter_supported (s := {}) rfl readable_empty
    [stalledAt Instant.epoch] (stalledAt_pair thirdDay) hlate
  have hsame : ({} : Store).endAfter [stalledAt thirdDay, stalledAt Instant.epoch] stalledPair =
      ({} : Store).endAfter [stalledAt Instant.epoch, stalledAt thirdDay] stalledPair :=
    hall {} [] stalledPair thirdDay Instant.epoch rfl rfl .nil hlate hearly
  rw [List.singleton_append] at hends hends'
  rw [hends, hends'] at hsame
  cases hsame
  rw [hmicros] at hmicros'
  exact absurd hmicros' (by decide)

end MomentInsights.Cooldown
