-- The percentage that a card shows of a goal. The share that is reached is rounded, a hundred
-- times the share is rounded again, and the fraction is cut off. So a percentage is shown from
-- an edge on that lies beside the exact hundredth: above it for 29, 57 and 58 percent, and
-- below it for all others.
import Mathlib.Tactic.Ring
import MomentInsights.Proofs.QuietDays
import MomentInsights.Proofs.SinglePass

namespace MomentInsights

/-! ## Where rounding reaches a value -/

namespace Binary64

variable {num den n b : Nat}

/-- Half a step below a whole number the nearest ones begin to be that number; the half itself
belongs to the even number. -/
theorem le_nearestEven_iff (hn : 0 < n) (hden : 0 < den) :
    n ≤ nearestEven num den ↔
      (2 * n - 1) * den < 2 * num ∨ (2 * n - 1) * den = 2 * num ∧ 2 ∣ n := by
  have hparts := Nat.div_add_mod num den
  have hrest := Nat.mod_lt num hden
  have hhalf : (2 * n - 1) * den = 2 * (den * n) - den := by
    rw [Nat.sub_mul, Nat.one_mul, Nat.mul_assoc, Nat.mul_comm n]
  unfold nearestEven
  dsimp only
  generalize num % den = r at *
  generalize num / den = q at *
  rw [hhalf]
  rcases Nat.lt_trichotomy n (q + 1) with hbelow | rfl | habove
  · have hle : den * n ≤ den * q := Nat.mul_le_mul_left _ (by omega)
    have hpos : 0 < den * n := Nat.mul_pos hden hn
    constructor
    · intro _
      omega
    · intro _
      split_ifs <;> omega
  · rw [Nat.mul_add, Nat.mul_one]
    split_ifs <;> omega
  · have hle : den * (q + 2) ≤ den * n := Nat.mul_le_mul_left _ (by omega)
    rw [Nat.mul_add] at hle
    split_ifs <;> omega

/-- The last digit of the values just below. -/
def digitBelow (b : Nat) : Nat := lastDigit (b - 1) 1

/-- Twice the middle between a value and the one before it. -/
def edge (b : Nat) : Nat := 2 * b - digitBelow b

/-- `num / den` lies past the edge, or on it and goes to the even value. -/
def Reaches (b num den : Nat) : Prop :=
  edge b * den < 2 * num ∨ edge b * den = 2 * num ∧ 2 * digitBelow b ∣ b

theorem lastDigit_div (num den : Nat) : lastDigit (num / den) 1 = lastDigit num den := by
  unfold lastDigit
  rw [Nat.div_one]

theorem lastDigit_dvd_lastDigit {m : Nat} (h : m ≤ n) : lastDigit m 1 ∣ lastDigit n 1 := by
  have hlog := log2_mono h
  unfold lastDigit
  rw [Nat.div_one, Nat.div_one]
  exact Nat.pow_dvd_pow 2 (by omega)

section Reached

theorem digitBelow_dvd (hdigit : lastDigit b 1 ∣ b) : digitBelow b ∣ b :=
  Nat.dvd_trans (lastDigit_dvd_lastDigit (Nat.sub_le b 1)) hdigit

theorem le_roundSteps_of_le (hdigit : lastDigit b 1 ∣ b) (hden : 0 < den)
    (h : b * den ≤ num) : b ≤ roundSteps num den := by
  have hscaled : roundSteps (den * b) den = b := by
    rw [roundSteps_mul_self hden, roundSteps_of_dvd hdigit]
  have hmono : roundSteps (den * b) den ≤ roundSteps num den :=
    roundSteps_mono hden (by rw [Nat.mul_comm den]; exact h)
  omega

variable (hb : 0 < b) (hdigit : lastDigit b 1 ∣ b)
include hb hdigit

/-- From the value before on, all have the same last digit. -/
theorem lastDigit_between {q : Nat} (hlow : b - digitBelow b ≤ q) (hhigh : q < b) :
    lastDigit q 1 = digitBelow b := by
  have hdvd := digitBelow_dvd hdigit
  have hlog : q.log2 ≤ (b - 1).log2 := log2_mono (by omega)
  unfold digitBelow lastDigit at *
  rw [Nat.div_one] at *
  rw [Nat.div_one]
  by_cases hwide : (b - 1).log2 < 53
  · rw [show (b - 1).log2 + 1 - 53 = 0 by omega, show q.log2 + 1 - 53 = 0 by omega]
  · have hzero : b - 1 ≠ 0 := by
      intro hzero
      rw [hzero] at hwide
      exact hwide (by decide)
    have hpow : 2 ^ (b - 1).log2 ≤ b - 1 := Nat.log2_self_le hzero
    have htwo : 0 < 2 ^ (b - 1).log2 := Nat.two_pow_pos _
    have hdvdpow : 2 ^ ((b - 1).log2 + 1 - 53) ∣ 2 ^ (b - 1).log2 :=
      Nat.pow_dvd_pow 2 (by omega)
    have hgap : 2 ^ ((b - 1).log2 + 1 - 53) ≤ b - 2 ^ (b - 1).log2 :=
      Nat.le_of_dvd (by omega) (Nat.dvd_sub hdvd hdvdpow)
    have hq : 2 ^ (b - 1).log2 ≤ q := by omega
    have hsame : q.log2 = (b - 1).log2 :=
      Nat.le_antisymm hlog ((Nat.le_log2 (by omega)).mpr hq)
    rw [hsame]

/-- What lies below the value before is rounded to less. -/
theorem roundSteps_lt_of_lt {p : Nat} (hp : p + digitBelow b = b) (hden : 0 < den)
    (h : num < p * den) : roundSteps num den < b := by
  have hpos : 0 < digitBelow b := lastDigit_pos _ _
  have hdvd : digitBelow b ∣ p := (Nat.dvd_add_left (Nat.dvd_refl _)).mp
    (by rw [hp]; exact digitBelow_dvd hdigit)
  have hexact : roundSteps p 1 = p := by
    apply roundSteps_of_dvd
    rwa [lastDigit_between hb hdigit (by omega) (by omega)]
  have hscaled : roundSteps (den * p) den = p := by rw [roundSteps_mul_self hden, hexact]
  have hmono : roundSteps num den ≤ roundSteps (den * p) den :=
    roundSteps_mono hden (by rw [Nat.mul_comm den]; omega)
  omega

/-- Between the value before and the value, rounding goes by the middle. -/
theorem le_roundSteps_between {p : Nat} (hp : p + digitBelow b = b) (hden : 0 < den)
    (hlow : p * den ≤ num) (hhigh : num < b * den) : b ≤ roundSteps num den ↔
      p * den + b * den < 2 * num ∨ p * den + b * den = 2 * num ∧ 2 * digitBelow b ∣ b := by
  obtain ⟨n, hn⟩ := digitBelow_dvd hdigit
  have hpos : 0 < digitBelow b := lastDigit_pos _ _
  have hn0 : 0 < n := Nat.pos_of_mul_pos_left (hn ▸ hb)
  have hquotient : lastDigit num den = digitBelow b := by
    rw [← lastDigit_div]
    apply lastDigit_between hb hdigit
    · have hle := (Nat.le_div_iff_mul_le hden).mpr hlow
      omega
    · exact (Nat.div_lt_iff_lt_mul hden).mpr hhigh
  have hmiddle : (2 * n - 1) * (den * digitBelow b) = p * den + b * den := by
    have hdouble : (2 * n - 1) * digitBelow b = p + b := by
      rw [Nat.sub_mul, Nat.one_mul, Nat.mul_assoc, Nat.mul_comm n, ← hn]
      omega
    rw [Nat.mul_left_comm, hdouble, Nat.mul_comm, Nat.add_mul]
  have heven : 2 * digitBelow b ∣ b ↔ 2 ∣ n := by
    rw [Nat.mul_comm]
    exact (iff_of_eq (congrArg _ hn)).trans (Nat.mul_dvd_mul_iff_left hpos)
  have hreach : b ≤ roundSteps num den ↔ n ≤ nearestEven num (den * digitBelow b) := by
    rw [roundSteps_eq, hquotient, Nat.mul_comm _ (digitBelow b)]
    exact (iff_of_eq (congrArg (· ≤ _) hn)).trans (Nat.mul_le_mul_left_iff hpos)
  rw [hreach, le_nearestEven_iff hn0 (Nat.mul_pos hden hpos), hmiddle, heven]

/-- What is rounded reaches a value just from its edge on. -/
theorem le_roundSteps_iff (hden : 0 < den) : b ≤ roundSteps num den ↔ Reaches b num den := by
  have hpos : 0 < digitBelow b := lastDigit_pos _ _
  have hbelow : digitBelow b ≤ b := Nat.le_of_dvd hb (digitBelow_dvd hdigit)
  obtain ⟨p, hp⟩ : ∃ p, p + digitBelow b = b := ⟨b - digitBelow b, by omega⟩
  have hedge : edge b * den = p * den + b * den := by
    rw [← Nat.add_mul]
    unfold edge
    congr 1
    omega
  have hless : p * den < b * den := Nat.mul_lt_mul_of_pos_right (by omega) hden
  unfold Reaches
  rw [hedge]
  rcases Nat.lt_or_ge num (p * den) with hfar | hnear
  · have hshort := roundSteps_lt_of_lt hb hdigit hp hden hfar
    constructor
    · intro h
      omega
    · rintro (h | ⟨h, -⟩) <;> omega
  · rcases Nat.lt_or_ge num (b * den) with hbefore | hpast
    · exact le_roundSteps_between hb hdigit hp hden hnear hbefore
    · exact iff_of_true (le_roundSteps_of_le hdigit hden hpast) (Or.inl (by omega))

end Reached

end Binary64

/-! ## From which share on a percentage is shown -/

open Binary64 (one roundSteps lastDigit digitBelow edge Reaches)

/-- The rounded share of a whole, in steps. -/
def share (part whole : Nat) : Nat := roundSteps (part * one) whole

/-- The percentage that is shown of a share. -/
def shownPercent (s : Nat) : Nat := roundSteps (100 * s) 1 / one

/-- The least share of which `k` percent are shown. -/
def leastShare (k : Nat) : Nat :=
  let least := (edge (k * one) + 199) / 200
  let digit := lastDigit least 1
  (least + digit - 1) / digit * digit

/-- The percentages of which less is shown where they are exact. -/
def LosesOne (k : Nat) : Prop := k = 29 ∨ k = 57 ∨ k = 58

instance (k : Nat) : Decidable (LosesOne k) := inferInstanceAs (Decidable (_ ∨ _))

section Edges

variable {k : Nat}

/-- A rounded value reaches the next rounded one as soon as it reaches what is rounded up. -/
theorem ceil_le_iff {least s : Nat} (hs : lastDigit s 1 ∣ s) :
    (least + lastDigit least 1 - 1) / lastDigit least 1 * lastDigit least 1 ≤ s ↔ least ≤ s := by
  have hpos := Binary64.lastDigit_pos least 1
  constructor
  · intro h
    have hless := Nat.lt_mul_of_div_lt (Nat.lt_add_one
      ((least + lastDigit least 1 - 1) / lastDigit least 1)) hpos
    rw [Nat.add_mul, Nat.one_mul] at hless
    omega
  · intro h
    obtain ⟨j, hj⟩ := Nat.dvd_trans (Binary64.lastDigit_dvd_lastDigit h) hs
    have hceil : (least + lastDigit least 1 - 1) / lastDigit least 1 ≤ j := by
      apply Nat.le_of_lt_succ
      rw [Nat.div_lt_iff_lt_mul hpos, Nat.succ_mul, Nat.mul_comm j]
      omega
    calc _ ≤ j * lastDigit least 1 := Nat.mul_le_mul_right _ hceil
      _ = s := by rw [hj, Nat.mul_comm]

theorem hundredth_even : ∀ k < 101, 0 < k → 2 * digitBelow (k * one) ∣ k * one := by
  decide +kernel

/-- Where the edge of a percentage lies. -/
structure EdgeOf (k : Nat) : Prop where
  pos : 0 < leastShare k
  digit : lastDigit (leastShare k) 1 ∣ leastShare k
  above_iff : LosesOne k ↔ 2 * (k * one) < 100 * edge (leastShare k)
  beside : 100 * edge (leastShare k) ≠ 2 * (k * one)
  high : 2 ^ 45 * (100 * edge (leastShare k)) ≤ 2 * one * (2 ^ 45 * k + 1)
  low : 2 * one * (2 ^ 45 * k) ≤ 2 ^ 45 * (100 * edge (leastShare k)) + 2 * one

theorem edges_computed : ∀ k < 101, 0 < k →
    (0 < leastShare k ∧ lastDigit (leastShare k) 1 ∣ leastShare k) ∧
      (LosesOne k ↔ 2 * (k * one) < 100 * edge (leastShare k)) ∧
      100 * edge (leastShare k) ≠ 2 * (k * one) ∧
      2 ^ 45 * (100 * edge (leastShare k)) ≤ 2 * one * (2 ^ 45 * k + 1) ∧
      2 * one * (2 ^ 45 * k) ≤ 2 ^ 45 * (100 * edge (leastShare k)) + 2 * one := by
  decide +kernel

variable (hk : 0 < k) (hk' : k ≤ 100)
include hk hk'

theorem edgeOf : EdgeOf k := by
  obtain ⟨⟨hpos, hdigit⟩, habove, hbeside, hhigh, hlow⟩ := edges_computed k (by omega) hk
  exact ⟨hpos, hdigit, habove, hbeside, hhigh, hlow⟩

theorem le_shownPercent_iff {s : Nat} (hs : lastDigit s 1 ∣ s) :
    k ≤ shownPercent s ↔ leastShare k ≤ s := by
  have hone := Binary64.one_pos
  have hdigit : lastDigit (k * one) 1 ∣ k * one := by
    refine Nat.dvd_trans (Binary64.lastDigit_dvd_one ?_) (Nat.dvd_mul_left one k)
    have hbound : 100 * one < 2 ^ (1127 : Nat) := by
      unfold one
      decide +kernel
    have hle : k * one ≤ 100 * one := Nat.mul_le_mul_right one hk'
    rw [Nat.div_one]
    exact Nat.lt_of_le_of_lt hle hbound
  have hreach : Reaches (k * one) (100 * s) 1 ↔ (edge (k * one) + 199) / 200 ≤ s := by
    unfold Reaches
    simp only [hundredth_even k (by omega) hk, and_true, Nat.mul_one]
    omega
  unfold shownPercent leastShare
  rw [Nat.le_div_iff_mul_le hone,
    Binary64.le_roundSteps_iff (Nat.mul_pos hk hone) hdigit Nat.zero_lt_one, hreach]
  exact (ceil_le_iff hs).symm

variable {part whole : Nat} (hwhole : 0 < whole)
include hwhole

/-- A percentage is shown just from its edge on. -/
theorem le_shown_iff :
    k ≤ shownPercent (share part whole) ↔ Reaches (leastShare k) (part * one) whole := by
  obtain ⟨hpos, hdigit, -⟩ := edgeOf hk hk'
  unfold share
  rw [le_shownPercent_iff hk hk' (Binary64.lastDigit_dvd_roundSteps _ _)]
  exact Binary64.le_roundSteps_iff hpos hdigit hwhole

theorem shown_of_edge_lt (scale : Nat)
    (h : scale * (100 * edge (leastShare k)) * whole < 2 * one * (scale * (100 * part))) :
    k ≤ shownPercent (share part whole) := by
  have hscaled : scale * 100 * (edge (leastShare k) * whole) < scale * 100 * (2 * (part * one)) :=
    calc scale * 100 * (edge (leastShare k) * whole)
        = scale * (100 * edge (leastShare k)) * whole := by ring
      _ < 2 * one * (scale * (100 * part)) := h
      _ = scale * 100 * (2 * (part * one)) := by ring
  rw [le_shown_iff hk hk' hwhole]
  exact Or.inl (Nat.lt_of_mul_lt_mul_left hscaled)

theorem not_shown_of_lt_edge (scale : Nat)
    (h : 2 * one * (scale * (100 * part)) < scale * (100 * edge (leastShare k)) * whole) :
    ¬ k ≤ shownPercent (share part whole) := by
  have hscaled : scale * 100 * (2 * (part * one)) < scale * 100 * (edge (leastShare k) * whole) :=
    calc scale * 100 * (2 * (part * one))
        = 2 * one * (scale * (100 * part)) := by ring
      _ < scale * (100 * edge (leastShare k)) * whole := h
      _ = scale * 100 * (edge (leastShare k) * whole) := by ring
  have hshort := Nat.lt_of_mul_lt_mul_left hscaled
  rw [le_shown_iff hk hk' hwhole]
  rintro (hpast | ⟨hat, -⟩) <;> omega

/-- All but three are shown where they are exact, and above. -/
theorem shown_of_le (hkept : ¬ LosesOne k) (h : k * whole ≤ 100 * part) :
    k ≤ shownPercent (share part whole) := by
  obtain ⟨-, -, habove, hbeside, -⟩ := edgeOf hk hk'
  have hedge : 100 * edge (leastShare k) < 2 * (k * one) := by
    have hle := mt habove.mpr hkept
    omega
  apply shown_of_edge_lt hk hk' hwhole 1
  rw [Nat.one_mul, Nat.one_mul]
  calc 100 * edge (leastShare k) * whole
      < 2 * (k * one) * whole := Nat.mul_lt_mul_of_pos_right hedge hwhole
    _ = 2 * one * (k * whole) := by ring
    _ ≤ 2 * one * (100 * part) := Nat.mul_le_mul_left _ h

/-- The three are not shown where they are exact, nor below. -/
theorem not_shown_of_le (hlost : LosesOne k) (h : 100 * part ≤ k * whole) :
    ¬ k ≤ shownPercent (share part whole) := by
  have hedge := (edgeOf hk hk').above_iff.mp hlost
  apply not_shown_of_lt_edge hk hk' hwhole 1
  rw [Nat.one_mul, Nat.one_mul]
  calc 2 * one * (100 * part)
      ≤ 2 * one * (k * whole) := Nat.mul_le_mul_left _ h
    _ = 2 * (k * one) * whole := by ring
    _ < 100 * edge (leastShare k) * whole := Nat.mul_lt_mul_of_pos_right hedge hwhole

/-- What is clearly above a percentage is past its edge. -/
theorem shown_of_clear (h : 2 ^ 45 * (k * whole) + whole < 2 ^ 45 * (100 * part)) :
    k ≤ shownPercent (share part whole) := by
  have hedge := (edgeOf hk hk').high
  have hone := Binary64.one_pos
  apply shown_of_edge_lt hk hk' hwhole (2 ^ 45)
  calc 2 ^ 45 * (100 * edge (leastShare k)) * whole
      ≤ 2 * one * (2 ^ 45 * k + 1) * whole := Nat.mul_le_mul_right _ hedge
    _ = 2 * one * (2 ^ 45 * (k * whole) + whole) := by ring
    _ < 2 * one * (2 ^ 45 * (100 * part)) := Nat.mul_lt_mul_of_pos_left h (by omega)

/-- What is clearly below a percentage is short of its edge. -/
theorem not_shown_of_clear (h : 2 ^ 45 * (100 * part) + whole < 2 ^ 45 * (k * whole)) :
    ¬ k ≤ shownPercent (share part whole) := by
  have hedge := (edgeOf hk hk').low
  have hone := Binary64.one_pos
  apply not_shown_of_lt_edge hk hk' hwhole (2 ^ 45)
  have hless : 2 * one * (2 ^ 45 * (100 * part)) + 2 * one * whole <
      2 ^ 45 * (100 * edge (leastShare k)) * whole + 2 * one * whole :=
    calc 2 * one * (2 ^ 45 * (100 * part)) + 2 * one * whole
        = 2 * one * (2 ^ 45 * (100 * part) + whole) := (Nat.mul_add _ _ _).symm
      _ < 2 * one * (2 ^ 45 * (k * whole)) := Nat.mul_lt_mul_of_pos_left h (by omega)
      _ = 2 * one * (2 ^ 45 * k) * whole := by ring
      _ ≤ (2 ^ 45 * (100 * edge (leastShare k)) + 2 * one) * whole := Nat.mul_le_mul_right _ hedge
      _ = 2 ^ 45 * (100 * edge (leastShare k)) * whole + 2 * one * whole := Nat.add_mul _ _ _
  exact Nat.lt_of_add_lt_add_right hless

end Edges

/-! ## The shown percentage against the exact one -/

/-- What is shown of a part of a whole. -/
structure ShownOf (part whole d : Nat) : Prop where
  most : d ≤ 100
  /-- A percentage is shown just from its edge on. -/
  reaches : ∀ k, 0 < k → k ≤ 100 → (k ≤ d ↔ Reaches (leastShare k) (part * one) whole)
  /-- It is never off by more than one. -/
  near : 100 * part / whole ≤ d + 1 ∧ d ≤ 100 * part / whole + 1
  /-- An exact percentage is shown as it is, but for three that lose one. -/
  exact : ∀ n, 100 * part = n * whole → (¬ LosesOne n ∧ d = n) ∨ (LosesOne n ∧ d + 1 = n)
  /-- What lies between two percentages is shown as the lower one, on targets below `2 ^ 45`. -/
  between : whole < 2 ^ 45 → ¬ whole ∣ 100 * part → d = 100 * part / whole

section ShownOf

variable {part whole : Nat}

theorem share_le_one (hle : part ≤ whole) (hwhole : 0 < whole) : share part whole ≤ one := by
  rw [← Binary64.roundSteps_self hwhole]
  exact Binary64.roundSteps_mono hwhole (Nat.mul_le_mul_right _ hle)

theorem shownPercent_le {s : Nat} (hs : s ≤ one) : shownPercent s ≤ 100 := by
  have hfull : shownPercent one = 100 := by decide +kernel
  rw [← hfull]
  exact Nat.div_le_div_right (Binary64.roundSteps_mono Nat.zero_lt_one (by omega))

theorem le_shownPercent {k : Nat} (hk' : k ≤ 100) (hwhole : 0 < whole)
    (h : 2 ^ 45 * (k * whole) + whole < 2 ^ 45 * (100 * part)) :
    k ≤ shownPercent (share part whole) := by
  rcases Nat.eq_zero_or_pos k with rfl | hk
  · exact Nat.zero_le _
  · exact shown_of_clear hk hk' hwhole h

section Bounds

variable (hle : part ≤ whole) (hwhole : 0 < whole)
include hle hwhole

theorem shownPercent_lt {k : Nat}
    (h : 2 ^ 45 * (100 * part) + whole < 2 ^ 45 * (k * whole)) :
    shownPercent (share part whole) < k := by
  have hmost := shownPercent_le (share_le_one hle hwhole)
  rcases Nat.eq_zero_or_pos k with rfl | hk
  · omega
  · by_cases hk' : k ≤ 100
    · exact Nat.not_le.mp (not_shown_of_clear hk hk' hwhole h)
    · omega

theorem shownPercent_near : 100 * part / whole ≤ shownPercent (share part whole) + 1 ∧
    shownPercent (share part whole) ≤ 100 * part / whole + 1 := by
  have hbounds := Nat.div_add_mod (100 * part) whole
  have hrest := Nat.mod_lt (100 * part) hwhole
  have hfull : 100 * part / whole ≤ 100 :=
    Nat.div_le_of_le_mul (by rw [Nat.mul_comm]; exact Nat.mul_le_mul_right _ hle)
  generalize 100 * part / whole = n at *
  rw [Nat.mul_comm] at hbounds
  constructor
  · cases n with
    | zero => exact Nat.zero_le _
    | succ n =>
      rw [Nat.add_mul, Nat.one_mul] at hbounds
      exact Nat.succ_le_succ (le_shownPercent (by omega) hwhole (by omega))
  · have hnext : (n + 2) * whole = n * whole + 2 * whole := Nat.add_mul n 2 whole
    have hless := shownPercent_lt hle hwhole (k := n + 2) (by omega)
    omega

theorem shownPercent_exact {n : Nat} (h : 100 * part = n * whole) :
    (¬ LosesOne n ∧ shownPercent (share part whole) = n) ∨
      (LosesOne n ∧ shownPercent (share part whole) + 1 = n) := by
  have hfull : n ≤ 100 := Nat.le_of_mul_le_mul_right (h ▸ Nat.mul_le_mul_left _ hle) hwhole
  by_cases hlost : LosesOne n
  · right
    have hpos : 0 < n := by
      rcases hlost with rfl | rfl | rfl <;> decide
    have hless := not_shown_of_le hpos hfull hwhole hlost (Nat.le_of_eq h)
    obtain ⟨hnear, -⟩ := shownPercent_near hle hwhole
    rw [h, Nat.mul_div_cancel _ hwhole] at hnear
    exact ⟨hlost, by omega⟩
  · left
    refine ⟨hlost, Nat.le_antisymm ?_ ?_⟩
    · have hnext : (n + 1) * whole = n * whole + whole := Nat.succ_mul n whole
      have hless := shownPercent_lt hle hwhole (k := n + 1) (by omega)
      omega
    · rcases Nat.eq_zero_or_pos n with rfl | hpos
      · exact Nat.zero_le _
      · exact shown_of_le hpos hfull hwhole hlost (Nat.le_of_eq h.symm)

theorem shownPercent_between (hsmall : whole < 2 ^ 45) (hnot : ¬ whole ∣ 100 * part) :
    shownPercent (share part whole) = 100 * part / whole := by
  have hbounds := Nat.div_add_mod (100 * part) whole
  have hrest := Nat.mod_lt (100 * part) hwhole
  have hmore : 0 < 100 * part % whole := Nat.pos_of_ne_zero fun h => hnot (Nat.dvd_of_mod_eq_zero h)
  have hfull : 100 * part / whole ≤ 100 :=
    Nat.div_le_of_le_mul (by rw [Nat.mul_comm]; exact Nat.mul_le_mul_right _ hle)
  generalize 100 * part / whole = n at *
  rw [Nat.mul_comm] at hbounds
  apply Nat.le_antisymm
  · have hnext : (n + 1) * whole = n * whole + whole := Nat.succ_mul n whole
    have hless := shownPercent_lt hle hwhole (k := n + 1) (by omega)
    omega
  · exact le_shownPercent hfull hwhole (by omega)

theorem shownOf : ShownOf part whole (shownPercent (share part whole)) where
  most := shownPercent_le (share_le_one hle hwhole)
  reaches _ hk hk' := le_shown_iff hk hk' hwhole
  near := shownPercent_near hle hwhole
  exact _ h := shownPercent_exact hle hwhole h
  between := shownPercent_between hle hwhole

end Bounds

end ShownOf

/-! ## The percentage of a goal -/

/-- The points that count, from none to the target. -/
def Goal.reached (g : Goal) : Int := min (max g.currentPoints 0) g.targetPoints

theorem Goal.progress_eq {g : Goal} {x : Binary64} (h : g.progress = .ok x)
    (htarget : 0 < g.targetPoints) :
    x = .finite false (share g.reached.toNat g.targetPoints.toNat) := by
  have hwhole : 0 < g.targetPoints.toNat := by omega
  have hone : Binary64.ofInt 1 = .finite false one := by decide +kernel
  unfold Goal.progress at h
  rw [if_neg (by omega)] at h
  obtain ⟨quotient, hquotient, hx⟩ := Outcome.bind_eq_ok.mp h
  obtain ⟨-, rfl, -⟩ := quotient_eq_ok hquotient
  rw [hone, Outcome.pure_eq_ok, Except.ok.injEq] at hx
  rw [← hx]
  rcases Int.lt_or_le g.currentPoints 0 with hnegative | hpositive
  · have hnone : g.reached.toNat = 0 := by
      unfold Goal.reached
      omega
    have hzero : share 0 g.targetPoints.toNat = 0 := by
      have hscaled := Binary64.roundSteps_mul_self hwhole 0
      rw [Nat.mul_zero] at hscaled
      unfold share
      rw [Nat.zero_mul, hscaled]
      decide
    rw [decide_eq_true hnegative, Binary64.clamp_negative, hnone, hzero]
    rfl
  · rw [decide_eq_false (Int.not_lt.mpr hpositive)]
    rcases Int.lt_or_le g.targetPoints g.currentPoints with habove | hbelow
    · have hreached : g.reached.toNat = g.targetPoints.toNat := by
        unfold Goal.reached
        omega
      have hfull : share g.targetPoints.toNat g.targetPoints.toNat = one :=
        Binary64.roundSteps_self hwhole
      have hmore : one ≤ share g.currentPoints.natAbs g.targetPoints.toNat := by
        rw [← hfull]
        exact Binary64.roundSteps_mono hwhole (Nat.mul_le_mul_right _ (by omega))
      rw [hreached, hfull]
      exact Binary64.clamp_above hmore
    · have hreached : g.reached.toNat = g.currentPoints.natAbs := by
        unfold Goal.reached
        omega
      rw [hreached]
      exact Binary64.clamp_below (share_le_one (by omega) hwhole)

theorem Variables.percentage_share {s : Nat} (hs : s ≤ one) :
    percentage (.real (.finite false s)) = .ok s!"{shownPercent s}%" := by
  have hone := Binary64.one_pos
  have hundred : Binary64.ofInt 100 = .finite false (100 * one) := by decide +kernel
  have hbound : s * (100 * one) / one ≤ 1000000 * one := by
    rw [← Nat.mul_assoc, Nat.mul_div_cancel _ hone]
    omega
  have hscaled : roundSteps (s * (100 * one)) one = roundSteps (100 * s) 1 := by
    rw [← Binary64.roundSteps_mul_self hone (100 * s)]
    rw [← Nat.mul_assoc, Nat.mul_comm s, Nat.mul_comm]
  rw [percentage_real, hundred, Binary64.mul_finite, bne_self_eq_false,
    Binary64.ofSteps_eq false hbound, hscaled]
  rfl

section Cards

variable {g : Goal} {t : Timeline} {s : Signal}

/-- A hit on a goal, and what its card says of the goal. -/
theorem tellsGoal_of_hits (h : Hits (Detect.goalAtRisk g t) s ∨ Hits (Detect.goalStalled g t) s) :
    Detects t s ∧ TellsGoal g s.details := by
  rcases h with ⟨h, hs⟩ | ⟨h, hs⟩
  · exact ⟨.goalAtRisk h, ((Detect.goalAtRisk_gives h).told_of_hit hs).2⟩
  · exact ⟨.goalStalled h, ((Detect.goalStalled_gives h).told_of_hit hs).2⟩

/-- The progress on the card of a goal is a percentage from 0 to 100, and off by one at most.
An exact percentage is shown as it is, but 28 stands for 29, 56 for 57 and 57 for 58. All
other percentages of a target below `2 ^ 45` are shown without their fraction. -/
theorem shown_percentage (htarget : 0 < g.targetPoints)
    (h : Hits (Detect.goalAtRisk g t) s ∨ Hits (Detect.goalStalled g t) s) (child : Child)
    (now : Instant) : ∃ c localized d, Card.ofSignal s child now = .ok c ∧
      c.localized = some localized ∧ localized.args.lookup "progress" = some s!"{d}%" ∧
      ShownOf g.reached.toNat g.targetPoints.toNat d := by
  obtain ⟨hdetects, htells⟩ := tellsGoal_of_hits h
  obtain ⟨x, hx, hprogress⟩ := htells.progress
  obtain ⟨args, hargs⟩ := Variables.args_total (v := Variables.ofSignal s child) hdetects.readable
  obtain ⟨c, localized, hc, hlocalized, hsame, -⟩ := Card.texts_eq hargs now
  have hle : g.reached.toNat ≤ g.targetPoints.toNat := by
    unfold Goal.reached
    omega
  have hwhole : 0 < g.targetPoints.toNat := by omega
  have htext := Variables.percentage_share (share_le_one hle hwhole)
  have hvalue : (Variables.ofSignal s child).valueOf .progress =
      .ok (some s!"{shownPercent (share g.reached.toNat g.targetPoints.toNat)}%") := by
    have hgiven : (Variables.ofSignal s child).progress = s.details.progress := rfl
    unfold Variables.valueOf
    rw [hgiven, hprogress, Goal.progress_eq hx htarget]
    dsimp only
    rw [htext]
    rfl
  refine ⟨c, localized, _, hc, hlocalized, ?_, shownOf hle hwhole⟩
  have hlookup := Variables.lookup_args hargs .progress
  unfold Variables.value at hlookup
  rw [hvalue] at hlookup
  rw [hsame]
  exact hlookup

/-- A fifth is shown as it is. -/
theorem shown_percentage_fifth :
    ∃ s c localized, Detect.goalStalled nearGoal (Timeline.ofEvents oldMoments twentiethDay) = .ok s ∧
      Card.ofSignal s oldChild twentiethDay = .ok c ∧ c.localized = some localized ∧
      localized.args.lookup "progress" = some "20%" := by
  obtain ⟨s, hs, htriggered, -⟩ := exists_stall nearGoal (stallArgs "Bike") (by decide +kernel)
  obtain ⟨c, localized, d, hc, hlocalized, htext, hshown⟩ :=
    shown_percentage (by decide) (Or.inr ⟨hs, htriggered⟩) oldChild twentiethDay
  have hexact : 100 * nearGoal.reached.toNat = 20 * nearGoal.targetPoints.toNat := by decide
  rcases hshown.exact 20 hexact with ⟨-, rfl⟩ | ⟨hlost, -⟩
  · exact ⟨s, c, localized, hs, hc, hlocalized, htext⟩
  · exact absurd hlost (by decide)

/-- Of 29 points of a hundred the card says 28 percent. -/
theorem percentage_loses_one :
    ¬ ∀ (g : Goal) (t : Timeline) (s : Signal) (child : Child) (now : Instant) (c : Card)
      (localized : Localized), 0 < g.targetPoints →
        (Hits (Detect.goalAtRisk g t) s ∨ Hits (Detect.goalStalled g t) s) →
        Card.ofSignal s child now = .ok c → c.localized = some localized →
          localized.args.lookup "progress" = some s!"{100 * g.reached / g.targetPoints}%" := by
  intro hexact
  obtain ⟨s, hs, htriggered, -, hargs⟩ := exists_stall
    { nearGoal with currentPoints := 29 }
    ((stallArgs "Bike").dropLast ++ [("progress", "28%")]) (by decide +kernel)
  obtain ⟨c, localized, hc, hlocalized, hsame, -⟩ := Card.texts_eq hargs twentiethDay
  have htext := hexact _ _ s oldChild twentiethDay c localized (by decide)
    (Or.inr ⟨hs, htriggered⟩) hc hlocalized
  rw [hsame] at htext
  revert htext
  decide +kernel

end Cards

end MomentInsights
