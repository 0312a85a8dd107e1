-- Rounding to 53 bits keeps the order of values, and moves a value by at most half of its
-- last digit. So the rounded seconds of a span reach a whole number of seconds just when
-- the span does, as long as a microsecond is more than the last digit.
import MomentInsights.Proofs.Rounding

namespace MomentInsights

namespace Binary64

variable {num num' den : Nat}

/-! ## Nearest whole numbers -/

theorem le_nearestEven (num den : Nat) : num / den ≤ nearestEven num den := by
  unfold nearestEven
  dsimp only
  split
  · exact Nat.le_refl _
  · split
    · exact Nat.le_succ _
    · split
      · exact Nat.le_refl _
      · exact Nat.le_succ _

theorem nearestEven_mono (h : num ≤ num') : nearestEven num den ≤ nearestEven num' den := by
  have hquotient : num / den ≤ num' / den := Nat.div_le_div_right h
  rcases Nat.lt_or_eq_of_le hquotient with hless | hsame
  · have hlow := nearestEven_le num den
    have hhigh := le_nearestEven num' den
    omega
  · have hremainder : num % den ≤ num' % den := by
      have hnum := Nat.div_add_mod num den
      have hnum' := Nat.div_add_mod num' den
      rw [hsame] at hnum
      omega
    unfold nearestEven
    dsimp only
    rw [hsame]
    split_ifs <;> omega

theorem nearestEven_scale {k : Nat} (hk : 0 < k) (num den : Nat) :
    nearestEven (k * num) (k * den) = nearestEven num den := by
  have hless : 2 * (k * (num % den)) < k * den ↔ 2 * (num % den) < den := by
    rw [Nat.mul_left_comm]
    exact Nat.mul_lt_mul_left hk
  have hmore : k * den < 2 * (k * (num % den)) ↔ den < 2 * (num % den) := by
    rw [Nat.mul_left_comm]
    exact Nat.mul_lt_mul_left hk
  unfold nearestEven
  simp only [Nat.mul_div_mul_left num den hk, Nat.mul_mod_mul_left, hless, hmore]

/-! ## The last digit -/

/-- The weight of the last digit that is kept of `num / den` steps. -/
def lastDigit (num den : Nat) : Nat := 2 ^ ((num / den).log2 + 1 - 53)

theorem roundSteps_eq (num den : Nat) :
    roundSteps num den = nearestEven num (den * lastDigit num den) * lastDigit num den := rfl

theorem lastDigit_pos (num den : Nat) : 0 < lastDigit num den := Nat.two_pow_pos _

/-- The last digit is one step, or there are 52 digits before it. -/
theorem lastDigit_cases (num den : Nat) :
    lastDigit num den = 1 ∨ 2 ^ (52 : Nat) * lastDigit num den ≤ num / den := by
  unfold lastDigit
  by_cases hwide : 53 ≤ (num / den).log2
  · right
    have hnonzero : num / den ≠ 0 := by
      intro hzero
      rw [hzero] at hwide
      exact absurd hwide (by decide)
    rw [← Nat.pow_add, show 52 + ((num / den).log2 + 1 - 53) = (num / den).log2 by omega]
    exact Nat.log2_self_le hnonzero
  · left
    rw [show (num / den).log2 + 1 - 53 = 0 by omega, Nat.pow_zero]

/-- The last digit of a value below `2 ^ 1127` steps divides one. -/
theorem lastDigit_dvd_one (h : num / den < 2 ^ (1127 : Nat)) : lastDigit num den ∣ one := by
  have hlog : (num / den).log2 < 1127 := by
    by_cases hzero : num / den = 0
    · rw [hzero]
      decide
    · exact (Nat.log2_lt hzero).mpr h
  unfold lastDigit one
  generalize hplaces : 1074 = places
  exact Nat.pow_dvd_pow 2 (by omega)

/-- A rounded value is off by at most half of its last digit. -/
theorem roundSteps_close (hden : 0 < den) (num : Nat) :
    2 * num ≤ 2 * (roundSteps num den * den) + den * lastDigit num den ∧
      2 * (roundSteps num den * den) ≤ 2 * num + den * lastDigit num den := by
  have hclose := nearestEven_close num (Nat.mul_pos hden (lastDigit_pos num den))
  have hassoc : nearestEven num (den * lastDigit num den) * (den * lastDigit num den) =
      roundSteps num den * den := by
    rw [roundSteps_eq, Nat.mul_comm den, Nat.mul_assoc]
  rwa [hassoc] at hclose

/-- A multiple of the last digit is not passed by rounding. -/
theorem le_roundSteps {k : Nat} (hden : 0 < den) (hdigit : lastDigit num den ∣ k)
    (h : k * den ≤ num) : k ≤ roundSteps num den := by
  obtain ⟨j, rfl⟩ := hdigit
  have hj : j ≤ num / (den * lastDigit num den) := by
    rw [Nat.le_div_iff_mul_le (Nat.mul_pos hden (lastDigit_pos num den))]
    calc j * (den * lastDigit num den) = lastDigit num den * j * den := by
          rw [Nat.mul_comm den, ← Nat.mul_assoc, Nat.mul_comm j]
      _ ≤ num := h
  rw [roundSteps_eq, Nat.mul_comm (lastDigit num den)]
  exact Nat.mul_le_mul_right _ (Nat.le_trans hj (le_nearestEven _ _))

/-- Rounding does not pass the next power of two. -/
theorem roundSteps_le_pow (num den : Nat) : roundSteps num den ≤ 2 ^ ((num / den).log2 + 1) := by
  have hless : num / den < 2 ^ ((num / den).log2 + 1) := Nat.lt_log2_self
  have hpow : 2 ^ ((num / den).log2 + 1) =
      2 ^ ((num / den).log2 + 1 - ((num / den).log2 + 1 - 53)) * lastDigit num den := by
    unfold lastDigit
    rw [← Nat.pow_add]
    congr 1
    omega
  rw [roundSteps_eq, hpow]
  apply Nat.mul_le_mul_right
  have hfloor : num / (den * lastDigit num den) <
      2 ^ ((num / den).log2 + 1 - ((num / den).log2 + 1 - 53)) := by
    rw [← Nat.div_div_eq_div_mul, Nat.div_lt_iff_lt_mul (lastDigit_pos num den), ← hpow]
    exact hless
  have hnearest := nearestEven_le num (den * lastDigit num den)
  omega

theorem log2_mono {m n : Nat} (h : m ≤ n) : m.log2 ≤ n.log2 := by
  by_cases hzero : m = 0
  · subst hzero
    exact Nat.zero_le _
  · exact (Nat.le_log2 (by omega)).mpr (Nat.le_trans (Nat.log2_self_le hzero) h)

/-- Rounding keeps the order. -/
theorem roundSteps_mono (hden : 0 < den) (h : num ≤ num') :
    roundSteps num den ≤ roundSteps num' den := by
  have hquotient : num / den ≤ num' / den := Nat.div_le_div_right h
  have hlog : (num / den).log2 ≤ (num' / den).log2 := log2_mono hquotient
  rcases Nat.lt_or_eq_of_le hlog with hless | hsame
  · have hpow : 2 ^ (num' / den).log2 ≤ num' / den := by
      apply Nat.log2_self_le
      intro hzero
      rw [hzero] at hless
      exact absurd hless (Nat.not_lt_zero _)
    calc roundSteps num den ≤ 2 ^ ((num / den).log2 + 1) := roundSteps_le_pow num den
      _ ≤ 2 ^ (num' / den).log2 := Nat.pow_le_pow_right (by decide) hless
      _ ≤ roundSteps num' den := by
        apply le_roundSteps hden
        · exact Nat.pow_dvd_pow 2 (by omega)
        · exact (Nat.le_div_iff_mul_le hden).mp hpow
  · have hdigit : lastDigit num den = lastDigit num' den := by
      unfold lastDigit
      rw [hsame]
    rw [roundSteps_eq, roundSteps_eq, hdigit]
    exact Nat.mul_le_mul_right _ (nearestEven_mono h)

/-- Values that are more than a last digit apart are told apart by rounding. -/
theorem roundSteps_lt (hden : 0 < den) (h : num + den * lastDigit num' den < num') :
    roundSteps num den < roundSteps num' den := by
  have hclose := (roundSteps_close hden num).2
  have hclose' := (roundSteps_close hden num').1
  have hdigit : lastDigit num den ≤ lastDigit num' den := by
    apply Nat.pow_le_pow_right (by decide)
    have hlog := log2_mono (Nat.div_le_div_right (c := den) (by omega : num ≤ num'))
    omega
  have hweight : den * lastDigit num den ≤ den * lastDigit num' den := Nat.mul_le_mul_left _ hdigit
  have hless : roundSteps num den * den < roundSteps num' den * den := by omega
  exact Nat.lt_of_mul_lt_mul_right hless

theorem roundSteps_scale {k : Nat} (hk : 0 < k) (num den : Nat) :
    roundSteps (k * num) (k * den) = roundSteps num den := by
  have hdigit : lastDigit (k * num) (k * den) = lastDigit num den := by
    unfold lastDigit
    rw [Nat.mul_div_mul_left num den hk]
  rw [roundSteps_eq, roundSteps_eq, hdigit, Nat.mul_assoc, nearestEven_scale hk]

theorem roundSteps_mul_self {k : Nat} (h : 0 < k) (steps : Nat) :
    roundSteps (k * steps) k = roundSteps steps 1 := by
  have hscale := roundSteps_scale h steps 1
  rwa [Nat.mul_one] at hscale

/-- A number over itself is one. -/
theorem roundSteps_self {n : Nat} (h : 0 < n) : roundSteps (n * one) n = one := by
  rw [roundSteps_mul_self h]
  unfold one
  decide +kernel

/-- Twice a value that has all its digits rounds to twice as much. -/
theorem roundSteps_double (h : 2 ^ (52 : Nat) ≤ num / den) :
    roundSteps (2 * num) den = 2 * roundSteps num den := by
  have hnonzero : num / den ≠ 0 := by
    intro hzero
    rw [hzero] at h
    exact absurd h (by decide)
  have hwide : 52 ≤ (num / den).log2 := (Nat.le_log2 hnonzero).mpr h
  have hlog : (2 * num / den).log2 = (num / den).log2 + 1 := by
    have hhalf : 2 * num / den / 2 = num / den := by
      rw [Nat.div_div_eq_div_mul, Nat.mul_comm den, Nat.mul_div_mul_left num den (by decide)]
    rw [Nat.log2_def, if_pos (by omega), hhalf]
  have hdigit : lastDigit (2 * num) den = 2 * lastDigit num den := by
    unfold lastDigit
    rw [hlog, show (num / den).log2 + 1 + 1 - 53 = (num / den).log2 + 1 - 53 + 1 by omega,
      Nat.pow_succ, Nat.mul_comm]
  rw [roundSteps_eq, roundSteps_eq, hdigit, Nat.mul_left_comm den, nearestEven_scale (by decide),
    Nat.mul_left_comm]

theorem nearestEven_exact (hden : 0 < den) (n : Nat) : nearestEven (den * n) den = n := by
  unfold nearestEven
  simp [hden]

/-- Multiples of their last digit need no rounding. -/
theorem roundSteps_of_dvd {n : Nat} (h : lastDigit n 1 ∣ n) : roundSteps n 1 = n := by
  obtain ⟨k, hk⟩ := h
  have hexact := nearestEven_exact (lastDigit_pos n 1) k
  rw [← hk] at hexact
  rw [roundSteps_eq, Nat.one_mul, hexact, Nat.mul_comm]
  exact hk.symm

/-- A rounded value is a multiple of its own last digit. -/
theorem lastDigit_dvd_roundSteps (num den : Nat) :
    lastDigit (roundSteps num den) 1 ∣ roundSteps num den := by
  unfold lastDigit
  rw [Nat.div_one]
  rcases Nat.lt_or_eq_of_le (roundSteps_le_pow num den) with hless | hpow
  · by_cases hzero : roundSteps num den = 0
    · rw [hzero]
      exact Nat.dvd_zero _
    · have hlog := (Nat.log2_lt hzero).mpr hless
      have hdigit : 2 ^ ((roundSteps num den).log2 + 1 - 53) ∣ lastDigit num den :=
        Nat.pow_dvd_pow 2 (by omega)
      exact Nat.dvd_trans hdigit (Nat.dvd_mul_left _ _)
  · rw [hpow, Nat.log2_two_pow]
    exact Nat.pow_dvd_pow 2 (by omega)

/-- A rounded value needs no rounding. -/
theorem roundSteps_again (num den : Nat) :
    roundSteps (roundSteps num den) 1 = roundSteps num den :=
  roundSteps_of_dvd (lastDigit_dvd_roundSteps num den)

end Binary64

/-! ## Spans in seconds -/

namespace Duration

open Binary64 (one roundSteps lastDigit)

variable {d : Duration} {m k : Nat}

/-- The seconds of a span of some microseconds, without its sign. -/
def steps (m : Nat) : Nat := roundSteps (m * one) secondMicros

theorem steps_lt_overflow (h : m < 2 ^ (64 : Nat)) : steps m < Binary64.overflowSteps := by
  have hbound : m * one / secondMicros ≤ 2 ^ (64 : Nat) * one :=
    Nat.le_trans (Nat.div_le_self _ _) (Nat.mul_le_mul_right _ (Nat.le_of_lt h))
  have hround : steps m ≤ 2 * (m * one / secondMicros) + 1 :=
    Binary64.roundSteps_le (m * one) secondMicros
  have hrange : 2 * (2 ^ (64 : Nat) * one) + 1 < Binary64.overflowSteps := by
    unfold one Binary64.overflowSteps
    decide +kernel
  omega

/-- The seconds of a span are finite, or the span is too long for that. -/
theorem seconds_cases (d : Duration) :
    d.seconds = .finite (d.micros < 0) (steps d.micros.natAbs) ∨
      Binary64.overflowSteps ≤ steps d.micros.natAbs ∧ d.seconds = .infinite (d.micros < 0) := by
  unfold seconds Binary64.ofRatio Binary64.ofSteps
  dsimp only
  split
  · exact Or.inl rfl
  · rename_i hlong
    exact Or.inr ⟨Nat.not_lt.mp hlong, rfl⟩

theorem seconds_eq (h : d.micros.natAbs < 2 ^ (64 : Nat)) :
    d.seconds = .finite (d.micros < 0) (steps d.micros.natAbs) := by
  rcases seconds_cases d with hfinite | ⟨hlong, -⟩
  · exact hfinite
  · exact absurd (steps_lt_overflow h) (Nat.not_lt.mpr hlong)

/-- The last digit of the seconds of a span divides one second. -/
theorem lastDigit_seconds (h : m < 2 ^ (64 : Nat)) : lastDigit (m * one) secondMicros ∣ one := by
  apply Binary64.lastDigit_dvd_one
  rw [Nat.div_lt_iff_lt_mul (by decide)]
  have hbound : 2 ^ (64 : Nat) * one < 2 ^ (1127 : Nat) * secondMicros := by
    unfold one
    decide +kernel
  exact Nat.lt_of_le_of_lt (Nat.mul_le_mul_right _ (Nat.le_of_lt h)) hbound

/-- The last digit of the seconds of a span of less than `2 ^ 33` seconds. -/
theorem lastDigit_lt {places : Nat} (hplaces : places ≤ 33) (h : m < 2 ^ places * secondMicros) :
    2 ^ (52 - places) * lastDigit (m * one) secondMicros < one := by
  rcases Binary64.lastDigit_cases (m * one) secondMicros with hstep | hdigits
  · rw [hstep, Nat.mul_one]
    have hsmall : 2 ^ (52 : Nat) < one := by
      unfold one
      decide +kernel
    exact Nat.lt_of_le_of_lt (Nat.pow_le_pow_right (by decide) (Nat.sub_le _ _)) hsmall
  · rw [Nat.le_div_iff_mul_le (by decide)] at hdigits
    have hspan : m * one < 2 ^ places * secondMicros * one :=
      Nat.mul_lt_mul_of_pos_right h Binary64.one_pos
    have hpow : 2 ^ (52 : Nat) = 2 ^ places * 2 ^ (52 - places) := by
      rw [← Nat.pow_add]
      congr 1
      omega
    rw [hpow] at hdigits
    have hproduct : 2 ^ places * secondMicros *
        (2 ^ (52 - places) * lastDigit (m * one) secondMicros) ≤ m * one := by
      rwa [Nat.mul_right_comm, ← Nat.mul_assoc (2 ^ places)]
    exact Nat.lt_of_mul_lt_mul_left (Nat.lt_of_le_of_lt hproduct hspan)

/-- Some whole seconds are not passed when a longer span is rounded. -/
theorem le_steps (h : m < 2 ^ (64 : Nat)) (hk : k * secondMicros ≤ m) : k * one ≤ steps m := by
  apply Binary64.le_roundSteps (by decide)
  · exact Nat.dvd_trans (lastDigit_seconds h) (Nat.dvd_mul_left _ _)
  · rw [Nat.mul_right_comm]
    exact Nat.mul_le_mul_right _ hk

/-- A span that misses some whole seconds is not rounded up to them, as long as a
microsecond is more than the last digit. -/
theorem steps_lt (h : m < 2 ^ (33 : Nat) * secondMicros) (hk : m < k * secondMicros) :
    steps m < k * one := by
  have hdigit := lastDigit_lt (Nat.le_refl 33) h
  have hclose : 2 * (steps m * 1000000) ≤
      2 * (m * one) + 1000000 * lastDigit (m * one) secondMicros :=
    (Binary64.roundSteps_close (by decide) (m * one)).2
  have hnext : (m + 1) * one ≤ k * one * 1000000 := by
    rw [Nat.mul_right_comm]
    exact Nat.mul_le_mul_right _ hk
  rw [Nat.add_mul, Nat.one_mul] at hnext
  omega

/-- Spans that differ have seconds that differ. -/
theorem steps_strictMono {m' : Nat} (h : m < m') (h' : m' < 2 ^ (32 : Nat) * secondMicros) :
    steps m < steps m' := by
  have hdigit := lastDigit_lt (by decide : 32 ≤ 33) h'
  have hnext : (m + 1) * one ≤ m' * one := Nat.mul_le_mul_right _ h
  rw [Nat.add_mul, Nat.one_mul] at hnext
  apply Binary64.roundSteps_lt (by decide)
  change m * one + 1000000 * lastDigit (m' * one) secondMicros < m' * one
  omega

/-- Whole seconds need no rounding. -/
theorem steps_whole {k : Nat} (h : k < 2 ^ (32 : Nat)) : steps (k * secondMicros) = k * one := by
  have hdigit : lastDigit (k * one) 1 ∣ one := by
    apply Binary64.lastDigit_dvd_one
    have hbound : 2 ^ (32 : Nat) * one < 2 ^ (1127 : Nat) := by
      unfold one
      decide +kernel
    rw [Nat.div_one]
    exact Nat.lt_of_le_of_lt (Nat.mul_le_mul_right _ (Nat.le_of_lt h)) hbound
  have hscale := Binary64.roundSteps_mul_self (by decide : 0 < secondMicros) (k * one)
  unfold steps
  rw [Nat.mul_right_comm, Nat.mul_comm (k * one), hscale]
  exact Binary64.roundSteps_of_dvd (Nat.dvd_trans hdigit (Nat.dvd_mul_left _ _))

theorem steps_mono {m' : Nat} (h : m ≤ m') : steps m ≤ steps m' :=
  Binary64.roundSteps_mono (by decide) (Nat.mul_le_mul_right _ h)

/-- Rounding does not move the seconds of a span past those of a shorter span. -/
theorem steps_le_steps {m' : Nat} (h : m < 2 ^ (32 : Nat) * secondMicros) :
    steps m ≤ steps m' ↔ m ≤ m' := by
  constructor
  · intro hle
    by_contra hless
    exact absurd (steps_strictMono (Nat.not_le.mp hless) h) (Nat.not_lt.mpr hle)
  · exact steps_mono

end Duration

/-! ## Seconds that are compared with a number -/

/-- The number is that of the seconds in so many microseconds, and less than `2 ^ 32`. -/
structure Number.IsMicros (n : Number) (m : Nat) : Prop where
  short : m < 2 ^ (32 : Nat) * Duration.secondMicros
  seconds : n = .real (Duration.seconds ⟨m⟩) ∨
    ∃ k : Nat, n = .whole k ∧ m = k * Duration.secondMicros

namespace Number.IsMicros

open Duration (steps)

variable {n : Number} {m : Nat}

/-- Such a number is compared by its steps. -/
theorem leReal_finite (h : n.IsMicros m) (negative : Bool) (s : Nat) :
    n.leReal (.finite negative s) = decide ((steps m : Int) ≤ Binary64.signedSteps negative s) := by
  obtain ⟨hshort, rfl | ⟨k, rfl, rfl⟩⟩ := h
  · have hnonneg : decide ((m : Int) < 0) = false := decide_eq_false (by omega)
    have hseconds := Duration.seconds_eq (d := ⟨m⟩) (Nat.lt_trans hshort (by decide))
    rw [Int.natAbs_natCast, hnonneg] at hseconds
    rw [hseconds]
    rfl
  · rw [Duration.steps_whole (Nat.lt_of_mul_lt_mul_right hshort), Int.natCast_mul]
    rfl

theorem leReal_infinite (h : n.IsMicros m) (negative : Bool) :
    n.leReal (.infinite negative) = !negative := by
  obtain ⟨hshort, rfl | ⟨k, rfl, rfl⟩⟩ := h
  · rw [Duration.seconds_eq (d := ⟨m⟩) (Nat.lt_trans hshort (by decide))]
    rfl
  · rfl

/-- The rounding of the seconds does not show. -/
theorem leReal_seconds (h : n.IsMicros m) (span : Duration) :
    n.leReal span.seconds = decide ((m : Int) ≤ span.micros) := by
  have hreach : steps m ≤ steps span.micros.natAbs ↔ m ≤ span.micros.natAbs :=
    Duration.steps_le_steps h.short
  rcases Int.lt_or_le span.micros 0 with hneg | hpos
  · have hsteps : 0 < steps span.micros.natAbs :=
      calc 0 ≤ steps 0 := Nat.zero_le _
        _ < steps 1 := Duration.steps_strictMono Nat.zero_lt_one (by decide)
        _ ≤ steps span.micros.natAbs := Duration.steps_mono (by omega)
    have hunreached : decide ((m : Int) ≤ span.micros) = false := decide_eq_false (by omega)
    rw [hunreached]
    rcases Duration.seconds_cases span with hfinite | ⟨-, hinfinite⟩
    · rw [hfinite, h.leReal_finite, decide_eq_true hneg, Binary64.signedSteps_true]
      exact decide_eq_false (by omega)
    · rw [hinfinite, h.leReal_infinite, decide_eq_true hneg]
      rfl
  · rcases Duration.seconds_cases span with hfinite | ⟨hlong, hinfinite⟩
    · rw [hfinite, h.leReal_finite, decide_eq_false (Int.not_lt.mpr hpos),
        Binary64.signedSteps_false, decide_eq_decide]
      omega
    · have hless := Duration.steps_lt_overflow (Nat.lt_trans h.short (by decide))
      have hreached : m ≤ span.micros.natAbs := hreach.mp (by omega)
      rw [hinfinite, h.leReal_infinite, decide_eq_false (Int.not_lt.mpr hpos)]
      exact (decide_eq_true (by omega)).symm

end Number.IsMicros

/-! ## Whole days -/

namespace Instant

open Binary64 (one)

/-- So many microseconds are a span of `2 ^ 33` seconds, more than 270 years. -/
def longSpan : Nat := 2 ^ (33 : Nat) * Duration.secondMicros

theorem completeDays_seconds {d : Duration} (h : d.micros.natAbs < longSpan) :
    completeDays d.seconds = d.micros.natAbs / Duration.dayMicros := by
  have hsmall : d.micros.natAbs < 2 ^ (64 : Nat) := Nat.lt_trans h (by decide)
  have hday : Duration.dayMicros = 86400 * Duration.secondMicros := rfl
  have hdivmod := Nat.div_add_mod d.micros.natAbs Duration.dayMicros
  have hrest := Nat.mod_lt d.micros.natAbs (by decide : 0 < Duration.dayMicros)
  generalize d.micros.natAbs / Duration.dayMicros = days at *
  rw [Duration.seconds_eq hsmall]
  unfold completeDays
  dsimp only
  have hlow : days * 86400 * one ≤ Duration.steps d.micros.natAbs := by
    apply Duration.le_steps hsmall
    rw [Nat.mul_assoc, ← hday, Nat.mul_comm]
    omega
  have hhigh : Duration.steps d.micros.natAbs < (days + 1) * 86400 * one := by
    apply Duration.steps_lt h
    rw [Nat.mul_assoc, ← hday, Nat.add_mul, Nat.one_mul, Nat.mul_comm]
    omega
  rw [Nat.mul_assoc] at hlow hhigh
  have hpos : 0 < 86400 * one := Nat.mul_pos (by decide) Binary64.one_pos
  apply Nat.le_antisymm
  · exact Nat.le_of_lt_succ ((Nat.div_lt_iff_lt_mul hpos).mpr hhigh)
  · exact (Nat.le_div_iff_mul_le hpos).mpr hlow

/-- On spans below `2 ^ 33` seconds the rounding of the seconds does not show: the days are
those that have fully elapsed, either way. -/
theorem wholeDaysBetween_eq {a b : Instant} (h : (a.spanTo b).micros.natAbs < longSpan) :
    wholeDaysBetween a b = (a.spanTo b).micros.tdiv Duration.dayMicros := by
  have hsmall : (a.spanTo b).micros.natAbs < 2 ^ (64 : Nat) := Nat.lt_trans h (by decide)
  have hdays := completeDays_seconds h
  unfold wholeDaysBetween
  rw [Duration.seconds_eq hsmall] at hdays ⊢
  dsimp only
  rw [hdays]
  generalize (a.spanTo b).micros = span at *
  have hzero : Binary64.zero.le (.finite (span < 0) (Duration.steps span.natAbs)) =
      decide (0 ≤ Binary64.signedSteps (span < 0) (Duration.steps span.natAbs)) := rfl
  rw [hzero]
  rcases Int.lt_or_le span 0 with hneg | hnonneg
  · have habs : span = -(span.natAbs : Int) := by omega
    have htdiv : span.tdiv Duration.dayMicros =
        -((span.natAbs / Duration.dayMicros : Nat) : Int) := by
      rw [Int.ofNat_tdiv, ← Int.neg_tdiv, ← habs]
    rw [decide_eq_true hneg, Binary64.signedSteps_true, htdiv]
    split
    · rename_i hle
      -- Only a span that is rounded to nothing counts as one that is not negative.
      have hnone : Duration.steps span.natAbs = 0 := by
        have := of_decide_eq_true hle
        omega
      have hcomplete : completeDays (.finite (span < 0) (Duration.steps span.natAbs)) = 0 := by
        rw [hnone]
        exact Nat.zero_div _
      rw [← hdays, hcomplete]
      rfl
    · rfl
  · have habs : span = (span.natAbs : Int) := by omega
    have htdiv : span.tdiv Duration.dayMicros =
        ((span.natAbs / Duration.dayMicros : Nat) : Int) := by
      rw [Int.ofNat_tdiv, ← habs]
    rw [decide_eq_false (Int.not_lt.mpr hnonneg), Binary64.signedSteps_false, htdiv]
    exact if_pos (decide_eq_true (Int.natCast_nonneg _))

/-- The days that have fully elapsed from the earlier instant to the later one. -/
def elapsedDays (a b : Instant) : Nat := (b.micros - a.micros) / Duration.dayMicros

theorem wholeDaysBetween_of_le {a b : Instant} (hle : a ≤ b) (h : b.micros < a.micros + longSpan) :
    wholeDaysBetween a b = a.elapsedDays b := by
  have hmicros : a.micros ≤ b.micros := hle
  have hspan : (a.spanTo b).micros = (b.micros - a.micros : Nat) := by
    unfold spanTo
    dsimp only
    omega
  rw [wholeDaysBetween_eq (by rw [hspan, Int.natAbs_natCast]; omega), hspan, ← Int.ofNat_tdiv]
  rfl

theorem le_elapsedDays {a b : Instant} (hle : a ≤ b) (days : Nat) :
    days ≤ a.elapsedDays b ↔ a.micros + days * Duration.dayMicros ≤ b.micros := by
  have hmicros : a.micros ≤ b.micros := hle
  unfold elapsedDays
  rw [Nat.le_div_iff_mul_le (by decide)]
  omega

theorem back_days (t : Instant) (days : Nat) :
    (t.back (Duration.days days)).micros = t.micros - days * Duration.dayMicros := by
  have hshift := t.shift_micros ⟨-(Duration.days days).micros⟩
  have hdays : (Duration.days days).micros = (days * Duration.dayMicros : Nat) := by
    unfold Duration.days
    exact (Int.natCast_mul _ _).symm
  have hcount : (count : Int) = 315537897600000000 := rfl
  have hrange := t.inRange
  unfold back
  rw [hdays] at hshift ⊢
  dsimp only at hshift
  omega

end Instant

end MomentInsights
