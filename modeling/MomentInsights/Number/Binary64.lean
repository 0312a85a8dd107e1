-- Binary floating point with 53 bits, in exact integer arithmetic. A finite
-- value is a sign and a whole number of the smallest steps, 2 ^ -1074 each,
-- so every operation is an exact result that is rounded once. Then numbers that are
-- such a value or whole, and the whole numbers of 64 bits.
import MomentInsights.Text.Digits

namespace MomentInsights

/-- A value of the 64-bit binary format. A finite value is `steps` times
2 ^ -1074, with a minus sign if `negative`. -/
inductive Binary64 where
  | finite (negative : Bool) (steps : Nat)
  | infinite (negative : Bool)
  | nan
  deriving DecidableEq, Repr

namespace Binary64

/-! ## Rounding -/

/-- The steps in one. -/
def one : Nat := 2 ^ (1074 : Nat)

/-- The first count of steps that is past the largest finite value. -/
def overflowSteps : Nat := 2 ^ (2098 : Nat)

/-- `num / den` to the nearest whole number; a half goes to the even one. -/
def nearestEven (num den : Nat) : Nat :=
  let q := num / den
  let r := num % den
  if 2 * r < den then q
  else if den < 2 * r then q + 1
  else if q % 2 = 0 then q else q + 1

/-- `num / den` steps, cut to 53 significant bits: the nearest such count, a
tie to the even significand. -/
def roundSteps (num den : Nat) : Nat :=
  let width := (num / den).log2 + 1
  let dropped := 2 ^ (width - 53)
  nearestEven num (den * dropped) * dropped

/-- The value nearest to `num / den` steps with the given sign. -/
def ofSteps (negative : Bool) (num den : Nat) : Binary64 :=
  let s := roundSteps num den
  if s < overflowSteps then finite negative s else infinite negative

/-! ## Values -/

def zero : Binary64 := finite false 0

/-- The value nearest to `num / den`. -/
def ofRatio (num : Int) (den : Nat) : Binary64 :=
  ofSteps (num < 0) (num.natAbs * one) den

def ofInt (n : Int) : Binary64 := ofRatio n 1

/-- The value nearest to `digits * 10 ^ exponent`. Far outside the range of the
format the power is not computed: 400 decimal places on either side are past
every value. -/
def ofDecimal (negative : Bool) (digits : Nat) (exponent : Int) : Binary64 :=
  if digits = 0 then finite negative 0
  else
    let magnitude := exponent + (Nat.toDigits 10 digits).length
    if 400 < magnitude then infinite negative
    else if magnitude < -400 then finite negative 0
    else if 0 ≤ exponent then ofSteps negative (digits * 10 ^ exponent.toNat * one) 1
    else ofSteps negative (digits * one) (10 ^ (-exponent).toNat)

/-- The finite value as a signed count of steps. -/
def signedSteps (negative : Bool) (steps : Nat) : Int :=
  if negative then -(steps : Int) else steps

/-! ## Arithmetic -/

/-- A sum of finite values is exact before the one rounding; a sum that is
exactly zero is negative only when both terms are. -/
def add : Binary64 → Binary64 → Binary64
  | finite n a, finite m b =>
    let s := signedSteps n a + signedSteps m b
    if s = 0 then finite (n && m) 0 else ofSteps (s < 0) s.natAbs 1
  | infinite n, infinite m => if n = m then infinite n else nan
  | infinite n, finite _ _ => infinite n
  | finite _ _, infinite m => infinite m
  | nan, _ => nan
  | _, nan => nan

def neg : Binary64 → Binary64
  | finite n a => finite (!n) a
  | infinite n => infinite (!n)
  | nan => nan

def sub (x y : Binary64) : Binary64 := add x (neg y)

def mul : Binary64 → Binary64 → Binary64
  | finite n a, finite m b => ofSteps (n != m) (a * b) one
  | infinite n, infinite m => infinite (n != m)
  | infinite n, finite m b => if b = 0 then nan else infinite (n != m)
  | finite n a, infinite m => if a = 0 then nan else infinite (n != m)
  | nan, _ => nan
  | _, nan => nan

/-- Division; a finite value over zero is infinite. -/
def div : Binary64 → Binary64 → Binary64
  | finite n a, finite m b =>
    if b = 0 then (if a = 0 then nan else infinite (n != m))
    else ofSteps (n != m) (a * one) b
  | infinite n, finite m _ => infinite (n != m)
  | finite n _, infinite m => finite (n != m) 0
  | infinite _, infinite _ => nan
  | nan, _ => nan
  | _, nan => nan

instance : Add Binary64 := ⟨add⟩
instance : Sub Binary64 := ⟨sub⟩
instance : Mul Binary64 := ⟨mul⟩
instance : Div Binary64 := ⟨div⟩

/-! ## Order -/

/-- Strictly below; nothing is below or above NaN. -/
def lt : Binary64 → Binary64 → Bool
  | finite n a, finite m b => signedSteps n a < signedSteps m b
  | infinite n, infinite m => n && !m
  | infinite n, finite _ _ => n
  | finite _ _, infinite m => !m
  | _, _ => false

/-- Below or equal; the two zeros are equal. -/
def le : Binary64 → Binary64 → Bool
  | finite n a, finite m b => signedSteps n a ≤ signedSteps m b
  | infinite n, infinite m => n || !m
  | infinite n, finite _ _ => n
  | finite _ _, infinite m => !m
  | _, _ => false

/-- The smaller of two values, the first when neither is below the other. -/
def min (x y : Binary64) : Binary64 := if lt y x then y else x

/-- The larger of two values, the first when neither is above the other. -/
def max (x y : Binary64) : Binary64 := if lt x y then y else x

/-! ## Whole numbers -/

/-- The value without its fraction, for a finite value. -/
def truncate? : Binary64 → Option Int
  | finite n a => some (signedSteps n (a / one))
  | _ => none

/-- What `truncate?` cuts off, with the sign of the value. -/
def fraction : Binary64 → Binary64
  | finite n a => finite n (a % one)
  | x => x

def abs : Binary64 → Binary64
  | finite _ a => finite false a
  | infinite _ => infinite false
  | nan => nan

/-- The nearest whole number; a half goes away from zero. -/
def roundHalfAway? : Binary64 → Option Int
  | finite n a => some (signedSteps n ((2 * a + one) / (2 * one)))
  | _ => none

/-- The nearest whole number; a half goes to the even one. -/
def roundHalfEven? : Binary64 → Option Int
  | finite n a => some (signedSteps n (nearestEven a one))
  | _ => none

/-- One of the two zeros. -/
def isZero : Binary64 → Bool
  | finite _ a => a == 0
  | _ => false

def isFinite : Binary64 → Bool
  | finite _ _ => true
  | _ => false

/-! ## Bits -/

/-- The 64 bits of the interchange format: sign, exponent, fraction. -/
def bits : Binary64 → Nat
  | finite n a =>
    let sign := if n then 2 ^ (63 : Nat) else 0
    if a < 2 ^ (52 : Nat) then sign + a
    else
      let e := a.log2 - 52
      sign + (e + 1) * 2 ^ (52 : Nat) + (a / 2 ^ e - 2 ^ (52 : Nat))
  | infinite n => (if n then 2 ^ (63 : Nat) else 0) + 2047 * 2 ^ (52 : Nat)
  | nan => 2047 * 2 ^ (52 : Nat) + 2 ^ (51 : Nat)

/-! ## Numerals -/

/-- The digits of `n / 10 ^ places`, with a point before the last `places`. -/
def pointed (places n : Nat) : String :=
  if places = 0 then toString n
  else toString (n / 10 ^ places) ++ "." ++ padded places (n % 10 ^ places)

/-- The exact value with `places` decimal places, a half to the even digit. A
minus sign stays in front of a value that rounds to zero. -/
def fixed (places : Nat) : Binary64 → String
  | finite n a => (if n then "-" else "") ++ pointed places (nearestEven (a * 10 ^ places) one)
  | infinite n => if n then "-inf" else "inf"
  | nan => "nan"

/-! ## Laws -/

theorem one_pos : 0 < one := by
  unfold one
  apply Nat.pow_pos
  decide

theorem nearestEven_one (n : Nat) : nearestEven n 1 = n := by
  simp [nearestEven, Nat.mod_one]

/-- A count of steps with at most 53 bits needs no rounding. -/
theorem roundSteps_of_small {n : Nat} (h : n < 2 ^ (53 : Nat)) : roundSteps n 1 = n := by
  have hw : n.log2 + 1 - 53 = 0 := by
    rcases Nat.eq_zero_or_pos n with h0 | h0
    · simp [h0]
    · have := (Nat.log2_lt (by omega : n ≠ 0)).2 h
      omega
  simp [roundSteps, hw, nearestEven_one]

/-- The nearest whole number is at most half away. -/
theorem nearestEven_close (num : Nat) {den : Nat} (hd : 0 < den) :
    2 * num ≤ 2 * (nearestEven num den * den) + den ∧
      2 * (nearestEven num den * den) ≤ 2 * num + den := by
  have h := Nat.div_add_mod num den
  have hr := Nat.mod_lt num hd
  rw [Nat.mul_comm] at h
  simp only [nearestEven]
  split
  · omega
  · split
    · rw [Nat.add_mul]; omega
    · split
      · omega
      · rw [Nat.add_mul]; omega

end Binary64

/-- A number as it was given: whole, or a binary floating-point value. -/
inductive Number where
  | whole (n : Int)
  | real (x : Binary64)
  deriving DecidableEq, Repr

namespace Number

/-- The number against a binary value, in exact comparison. -/
def leReal (n : Number) (x : Binary64) : Bool :=
  match n, x with
  | real y, x => Binary64.le y x
  | whole n, .finite m b => n * (Binary64.one : Int) ≤ Binary64.signedSteps m b
  | whole _, .infinite m => !m
  | whole _, .nan => false

/-- Whether the binary value is strictly below the number, in exact comparison. -/
def gtReal (n : Number) (x : Binary64) : Bool :=
  match n, x with
  | real y, x => Binary64.lt x y
  | whole n, .finite m b => Binary64.signedSteps m b < n * (Binary64.one : Int)
  | whole _, .infinite m => m
  | whole _, .nan => false

end Number

/-! ## Whole numbers of 64 bits -/

/-- The number fits 64 bits, half of them for negative ones. -/
def fitsWord (n : Int) : Bool := -9223372036854775808 ≤ n && n ≤ 9223372036854775807

theorem fitsWord_iff {n : Int} : fitsWord n = true ↔ -2 ^ (63 : Nat) ≤ n ∧ n < 2 ^ (63 : Nat) := by
  simp only [fitsWord, Bool.and_eq_true, decide_eq_true_eq]
  omega

end MomentInsights
