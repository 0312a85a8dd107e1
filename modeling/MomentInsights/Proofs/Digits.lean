-- Numerals of a fixed width, decimal and hexadecimal, and the readers that give
-- the number back.
import MomentInsights.Text.Digits

namespace MomentInsights.Text

/-! ## Digits of a fixed width -/

/-- The last `width` digits of `n` in the base, the highest first. -/
def digitsOf (base : Nat) : Nat → Nat → List Char
  | 0, _ => []
  | width + 1, n => Nat.digitChar (n / base ^ width % base) :: digitsOf base width n

/-- The lowest digit comes off the end, as in `Nat.toDigits`. -/
theorem digitsOf_succ (base width n : Nat) :
    digitsOf base (width + 1) n = digitsOf base width (n / base) ++ [Nat.digitChar (n % base)] := by
  induction width with
  | zero => simp [digitsOf]
  | succ width ih =>
    rw [digitsOf, ih, digitsOf, Nat.div_div_eq_div_mul, ← Nat.pow_succ']
    rfl

theorem digitsOf_zero (base width : Nat) : digitsOf base width 0 = List.replicate width '0' := by
  induction width with
  | zero => rfl
  | succ width ih => simp [digitsOf, ih, List.replicate_succ]

/-- Zeros in front bring the shortest numeral to the width. -/
theorem zeros_append_toDigits {base width n : Nat} (hb : 1 < base) (hw : 0 < width)
    (hn : n < base ^ width) :
    List.replicate (width - (Nat.toDigits base n).length) '0' ++ Nat.toDigits base n =
      digitsOf base width n := by
  induction width generalizing n with
  | zero => omega
  | succ width ih =>
    rw [Nat.toDigits_eq_if hb, digitsOf_succ]
    split
    · rename_i h
      rw [Nat.div_eq_of_lt h, Nat.mod_eq_of_lt h, digitsOf_zero]
      simp
    · rename_i h
      have hpos : 0 < width := by
        rcases width with _ | width
        · simp at hn; omega
        · omega
      have hdiv : n / base < base ^ width :=
        Nat.div_lt_of_lt_mul (by rw [← Nat.pow_succ']; exact hn)
      rw [← ih hpos hdiv]
      simp

/-! ## Decimal numerals -/

theorem padded_toList {width n : Nat} (hw : 0 < width) (hn : n < 10 ^ width) :
    (padded width n).toList = digitsOf 10 width n := by
  simp only [padded, String.toList_ofList]
  exact zeros_append_toDigits (by omega) hw hn

theorem digit?_digitChar {d : Nat} (h : d < 10) : digit? (Nat.digitChar d) = some d := by
  have hall : ∀ d ∈ List.range 10, digit? (Nat.digitChar d) = some d := by decide
  exact hall d (List.mem_range.2 h)

theorem takeDigits_digitsOf (width n : Nat) (rest : List Char) :
    takeDigits width (digitsOf 10 width n ++ rest) = some (n % 10 ^ width, rest) := by
  induction width with
  | zero => simp [takeDigits, digitsOf, Nat.mod_one]
  | succ width ih =>
    have hd : n / 10 ^ width % 10 < 10 := Nat.mod_lt _ (by omega)
    simp only [digitsOf, List.cons_append, takeDigits, digit?_digitChar hd, ih]
    simp [Nat.mod_pow_succ, Nat.add_comm, Nat.mul_comm]

/-- Every character of a decimal numeral is a digit. -/
theorem isDigit_of_mem_digitsOf {width n : Nat} {c : Char} (hc : c ∈ digitsOf 10 width n) :
    isDigit c = true := by
  induction width with
  | zero => simp [digitsOf] at hc
  | succ width ih =>
    rcases List.mem_cons.1 hc with rfl | hc
    · simp [isDigit, digit?_digitChar (Nat.mod_lt _ (by omega : 10 > 0))]
    · exact ih hc

/-! ## Hexadecimal numerals -/

theorem hexDigit?_digitChar {d : Nat} (h : d < 16) :
    hexDigit? (Nat.digitChar d) = some d := by
  have hall : ∀ d ∈ List.range 16, hexDigit? (Nat.digitChar d) = some d := by decide
  exact hall d (List.mem_range.2 h)

theorem hex_toList {width n : Nat} (hw : 0 < width) (hn : n < 16 ^ width) :
    (hex width n).toList = digitsOf 16 width n := by
  simp only [hex, String.toList_ofList]
  exact zeros_append_toDigits (by decide) hw hn

/-- The four digits of a 16-bit number read back. -/
theorem hex_four {n : Nat} (hn : n < 65536) :
    ∃ a b c d, (hex 4 n).toList = [a, b, c, d] ∧ hex4? a b c d = some n := by
  rw [hex_toList (by decide) hn]
  refine ⟨_, _, _, _, rfl, ?_⟩
  simp only [hex4?]
  rw [hexDigit?_digitChar (by omega), hexDigit?_digitChar (by omega),
    hexDigit?_digitChar (by omega), hexDigit?_digitChar (by omega)]
  simp only [Option.bind_eq_bind, Option.bind_some, Option.pure_def, Option.some.injEq]
  omega

end MomentInsights.Text
