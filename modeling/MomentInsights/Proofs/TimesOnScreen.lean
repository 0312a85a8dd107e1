-- Times on screen. Seconds of at most a day are a span to the microsecond, and a card that
-- was on screen for so long meets the threshold when the span does. What happens to one card
-- leaves the cards with other ids as they are.
import MomentInsights.Proofs.CheckedForms
import MomentInsights.Proofs.CooldownHistory

namespace MomentInsights

open Binary64 (one signedSteps)

/-! ## Times on screen -/

namespace Duration

theorem rounded_bounds (micros left : Nat) :
    ∃ n : Nat, (Sum.mk micros (.finite false left)).rounded = n ∧ n ≤ micros + left / one + 1 := by
  have hsteps : (micros : Int) * (one : Int) + signedSteps false left =
      ((micros * one + left : Nat) : Int) := by
    rw [Binary64.signedSteps_false, Int.natCast_add, Int.natCast_mul]
  have hnonneg : ¬ ((micros * one + left : Nat) : Int) < 0 := by omega
  have hdiv : (micros * one + left) / one = micros + left / one := by
    rw [Nat.mul_comm, Nat.mul_add_div Binary64.one_pos]
  refine ⟨Binary64.nearestEven (micros * one + left) one, ?_, ?_⟩
  · unfold Sum.rounded
    dsimp only
    rw [hsteps, Int.natAbs_natCast, decide_eq_false hnonneg]
    rfl
  · rw [← hdiv]
    exact Binary64.nearestEven_le _ _

theorem zero_add_finite {steps : Nat} (h : steps < one) :
    ∃ left ≤ 2 * one, Binary64.zero + Binary64.finite false steps = .finite false left := by
  change ∃ left ≤ 2 * one, Binary64.add (.finite false 0) (.finite false steps) = .finite false left
  unfold Binary64.add
  have hsum : signedSteps false 0 + signedSteps false steps = steps := by
    rw [Binary64.signedSteps_false, Binary64.signedSteps_false, Int.natCast_zero, Int.zero_add]
  dsimp only
  rw [hsum, Int.natAbs_natCast]
  split
  · exact ⟨0, Nat.zero_le _, rfl⟩
  · have hbound : steps / 1 ≤ 1000000 * one := by rw [Nat.div_one]; omega
    obtain ⟨left, hle, hleft⟩ := Binary64.ofSteps_finite false hbound
    rw [Nat.div_one] at hle
    have hnonneg : ¬ (steps : Int) < 0 := by omega
    refine ⟨left, by omega, ?_⟩
    rw [decide_eq_false hnonneg, hleft]

/-- A fraction of a second in microseconds. -/
theorem scaled_finite {part : Nat} (h : part < one) :
    ∃ steps < 2000000 * one,
      Binary64.ofInt (Part.seconds.micros : Nat) * Binary64.finite false part =
        .finite false steps := by
  have hone := Binary64.one_pos
  have hmillion : Binary64.ofInt (Part.seconds.micros : Nat) = .finite false (1000000 * one) := by
    decide +kernel
  have hdiv : 1000000 * one * part / one = 1000000 * part := by
    rw [Nat.mul_right_comm, Nat.mul_div_cancel _ hone]
  have hbound : 1000000 * one * part / one ≤ 1000000 * one := by
    rw [hdiv]
    exact Nat.mul_le_mul_left _ (Nat.le_of_lt h)
  obtain ⟨steps, hle, hsteps⟩ := Binary64.ofSteps_finite false hbound
  rw [hdiv] at hle
  refine ⟨steps, by omega, ?_⟩
  rw [hmillion, Binary64.mul_finite, bne_self_eq_false, hsteps]

/-- The sum of a number of seconds that has no fraction. -/
theorem plus_whole {negative : Bool} {steps : Nat}
    (htruncated : signedSteps negative (steps / one) = (steps / one : Nat))
    (hfraction : steps % one = 0) :
    (Sum.mk 0 .zero).plus .seconds (.real (.finite negative steps)) =
      .ok ⟨(steps / one * 1000000 : Nat), .finite false 0⟩ := by
  have hnothing : (Binary64.finite negative 0).le .zero &&
      Binary64.zero.le (.finite negative 0) := by
    cases negative <;> rfl
  unfold Sum.plus
  simp only [Binary64.truncate?, Binary64.fraction, hfraction, hnothing, htruncated, if_true,
    Int.zero_add]
  rfl

/-- The sum of a number of seconds with a fraction. What is left of the fraction is at most
two microseconds. -/
theorem plus_part {steps : Nat} (hfraction : steps % one ≠ 0) :
    ∃ scaled left : Nat, scaled / one < 2000000 ∧ left / one ≤ 2 ∧
      (Sum.mk 0 .zero).plus .seconds (.real (.finite false steps)) =
        .ok ⟨(steps / one * 1000000 + scaled / one : Nat), .finite false left⟩ := by
  have hone := Binary64.one_pos
  obtain ⟨scaled, hscaled, hproduct⟩ := scaled_finite (Nat.mod_lt steps hone)
  obtain ⟨left, hleft, hsum⟩ := zero_add_finite (Nat.mod_lt scaled hone)
  refine ⟨scaled, left, (Nat.div_lt_iff_lt_mul hone).mpr hscaled,
    Nat.div_le_of_le_mul (by rwa [Nat.mul_comm]), ?_⟩
  have hsomething : ((Binary64.finite false (steps % one)).le .zero &&
      Binary64.zero.le (.finite false (steps % one))) = false := by
    have hpositive : ¬ ((steps % one : Nat) : Int) ≤ 0 := by omega
    rw [Bool.and_eq_false_iff]
    exact Or.inl (decide_eq_false hpositive)
  unfold Sum.plus
  simp only [Binary64.truncate?, Binary64.fraction, hsomething, hproduct, hsum,
    Binary64.signedSteps_false, Bool.false_eq_true, if_false, Option.getD_some, Int.zero_add]
  rfl

/-- The sum of a number of seconds of at most a day. -/
theorem plus_day {x : Binary64} (hx : x.WithinDay) :
    ∃ micros left : Nat, (Sum.mk 0 .zero).plus .seconds (.real x) =
        .ok ⟨micros, .finite false left⟩ ∧
      micros + left / one + 1 ≤ 2 * dayMicros := by
  obtain ⟨negative, steps, rfl, hsigned, hle⟩ := hx
  have hwhole : steps / one ≤ 86400 := Nat.div_le_of_le_mul (by rwa [Nat.mul_comm])
  have hzero : negative = true → steps = 0 := by
    rintro rfl
    have hneg : -(steps : Int) = steps := hsigned
    omega
  by_cases hfraction : steps % one = 0
  · have htruncated : signedSteps negative (steps / one) = (steps / one : Nat) := by
      cases negative with
      | false => rfl
      | true => simp [hzero rfl, signedSteps]
    refine ⟨steps / one * 1000000, 0, plus_whole htruncated hfraction, ?_⟩
    unfold dayMicros
    rw [Nat.zero_div]
    omega
  · obtain rfl : negative = false := by
      cases negative with
      | false => rfl
      | true => simp [hzero rfl] at hfraction
    obtain ⟨scaled, left, hscaled, hleft, hplus⟩ := plus_part hfraction
    refine ⟨_, left, hplus, ?_⟩
    unfold dayMicros
    omega

theorem bounded_of_days {d : Duration} (hlow : -(2 * dayMicros : Int) ≤ d.micros)
    (hhigh : d.micros ≤ 2 * dayMicros) : d.bounded = .ok d ∧ d.checked = .ok d := by
  have hdays : d.wholeDays = d.micros / dayMicros :=
    Int.fdiv_eq_ediv_of_nonneg _ (Int.natCast_nonneg dayMicros)
  have hday : (dayMicros : Int) = 86400000000 := rfl
  rw [hday] at hdays hlow hhigh
  have hfew : d.wholeDays.natAbs ≤ 999999999 := by omega
  have hbits : ¬ (d.wholeDays < -2147483648 ∨ 2147483647 < d.wholeDays) := by omega
  have hbounded : d.bounded = .ok d := if_pos hfew
  refine ⟨hbounded, ?_⟩
  unfold checked
  rw [if_neg hbits, hbounded]

theorem ofSeconds_day {x : Binary64} (hx : x.WithinDay) :
    ∃ span, ofSeconds (.real x) = .ok span ∧ span.neg = .ok ⟨-span.micros⟩ ∧
      0 ≤ span.micros ∧ span.micros ≤ (days 2).micros := by
  obtain ⟨micros, left, hsum, hle⟩ := plus_day hx
  obtain ⟨n, hn, hbound⟩ := rounded_bounds micros left
  have hday : (dayMicros : Int) = 86400000000 := rfl
  have hday' : dayMicros = 86400000000 := rfl
  refine ⟨⟨n⟩, ?_, ?_, Int.natCast_nonneg n, ?_⟩
  · unfold ofSeconds ofParts
    rw [List.foldlM_cons, hsum, Outcome.ok_bind, List.foldlM_nil, Outcome.pure_eq_ok,
      Outcome.ok_bind, hn]
    exact (bounded_of_days (by dsimp only; omega) (by dsimp only; omega)).2
  · exact (bounded_of_days (by dsimp only; omega) (by dsimp only; omega)).1
  · unfold days
    dsimp only
    omega

end Duration

/-! ## The tracker -/

namespace Tracker

variable {t t' : Tracker} {c : ShownCard} {now : Timestamp}

theorem hasMet_congr (hthreshold : t.threshold = t'.threshold) (hsince : t.since? c = t'.since? c)
    (now : Timestamp) : t.hasMet c now = t'.hasMet c now := by
  unfold hasMet
  rw [hthreshold, hsince]

theorem since?_hidden_of_ne {d : ShownCard} (h : c.id ≠ d.id) :
    (t.hidden d).since? c = t.since? c := by
  unfold since? hidden
  induction t.visible with
  | nil => rfl
  | cons entry entries ih =>
    rw [List.filter_cons]
    split
    · rw [List.lookup_cons, List.lookup_cons, ih]
    · rename_i hentry
      have hid : entry.1 = d.id := by simpa using hentry
      have hother : (c.id == entry.1) = false := by
        rw [hid]
        exact beq_eq_false_iff_ne.mpr h
      rw [ih, List.lookup_cons, hother]

theorem since?_visibleSince_of_ne {d : ShownCard} (h : c.id ≠ d.id) (since : Timestamp) :
    (t.visibleSince d since).since? c = t.since? c := by
  have hother : (c.id == d.id) = false := beq_eq_false_iff_ne.mpr h
  have hcons : (t.visibleSince d since).since? c = (t.hidden d).since? c := by
    unfold visibleSince since?
    rw [List.lookup_cons, hother]
  rw [hcons, since?_hidden_of_ne h]

/-- Back from a supported time by at most two days, and forth again. -/
theorem spanTo_shift {time : Instant} (htime : time.Supported) {span : Duration}
    (hnonneg : 0 ≤ span.micros) (hshort : span.micros ≤ (Duration.days 2).micros) :
    ((Timestamp.ofInstant time).shift ⟨-span.micros⟩).spanTo (Timestamp.ofInstant time) =
      .ok span := by
  have hearly : 719162 * 86400000000 ≤ time.micros := htime.1
  have hdays : (Duration.days 2).micros = 172800000000 := rfl
  have hlt := time.inRange
  rw [hdays] at hshort
  let since : Instant := ⟨(time.micros - span.micros).toNat, by omega⟩
  have hsince : (since.micros : Int) = time.micros - span.micros := Int.toNat_of_nonneg (by omega)
  have hadd : time.add? ⟨-span.micros⟩ = some since :=
    Instant.ofMicros?_eq_some.mpr (by dsimp only; omega)
  have hshift : (Timestamp.ofInstant time).shift ⟨-span.micros⟩ = Timestamp.ofInstant since := by
    unfold Timestamp.shift Timestamp.ofInstant
    rw [hadd]
  have hspan : (since.spanTo time).micros = span.micros := by
    unfold Instant.spanTo
    dsimp only
    omega
  rw [hshift]
  unfold Timestamp.spanTo Timestamp.ofInstant
  dsimp only
  rw [hspan, Int.add_sub_cancel]

/-- A card that was on screen for some seconds has met the threshold if these are enough. -/
theorem hasMet_visibleFor {x : Binary64} (hx : x.WithinDay) {time : Instant}
    (htime : time.Supported) (hnew : t.isRecorded c = false) :
    ∃ since, t.visibleFor c (.real x) (Timestamp.ofInstant time) = .ok (t.visibleSince c since) ∧
      (t.visibleSince c since).hasMet c (Timestamp.ofInstant time) =
        .ok ((Duration.ofSeconds (.real x)).toOption.any fun span =>
          t.threshold.leReal span.seconds) := by
  obtain ⟨span, hspan, hneg, hnonneg, hshort⟩ := Duration.ofSeconds_day hx
  refine ⟨(Timestamp.ofInstant time).shift ⟨-span.micros⟩, ?_, ?_⟩
  · unfold visibleFor
    rw [if_neg (by simp [hnew]), hspan, Outcome.ok_bind, hneg]
    rfl
  · unfold hasMet
    rw [since?_visibleSince]
    dsimp only
    rw [spanTo_shift htime hnonneg hshort, hspan]
    rfl

/-! ## Marked cards -/

theorem isRecorded_foldl_mark (cards : List ShownCard) :
    (cards.foldl mark t).isRecorded c = (cards.any (c.id == ·.id) || t.isRecorded c) := by
  induction cards generalizing t with
  | nil => rfl
  | cons d cards ih =>
    rw [List.foldl_cons, ih, isRecorded_mark, List.any_cons, ← Bool.or_assoc,
      Bool.or_comm (c.id == d.id)]

theorem hasMet_foldl_mark {cards : List ShownCard} (h : ∀ d ∈ cards, c.id ≠ d.id) :
    (cards.foldl mark t).hasMet c now = t.hasMet c now := by
  induction cards generalizing t with
  | nil => rfl
  | cons d cards ih =>
    rw [List.foldl_cons, ih fun e he => h e (List.mem_cons_of_mem d he)]
    have hthreshold : (t.mark d).threshold = t.threshold := rfl
    exact hasMet_congr hthreshold (since?_hidden_of_ne (h d List.mem_cons_self)) now

theorem unrecorded_of_none {cards : List ShownCard} (h : ∀ c ∈ cards, t.isRecorded c = false) :
    t.unrecorded cards = cards := by
  unfold unrecorded
  rw [List.filter_eq_self]
  intro c hc
  rw [h c hc]
  rfl

theorem isRecorded_of_none (h : t.recorded = []) (c : ShownCard) : t.isRecorded c = false := by
  unfold isRecorded
  rw [h]
  rfl

end Tracker

end MomentInsights
