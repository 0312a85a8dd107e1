-- The hash in the ids of cards, in closed form. The bytes of a key are folded into a word of
-- 64 bits, which loses nothing against a polynomial over the whole numbers that is reduced
-- once, at the end. An id ends in eight hexadecimal digits: the low half of the size of that
-- word, read as a signed one.
import Mathlib.Algebra.BigOperators.Fin
import Mathlib.Tactic.Ring
import MomentInsights.Card.StableId
import MomentInsights.Proofs.Digits

namespace MomentInsights

/-! ## Hexadecimal numerals -/

namespace Text

/-- The hexadecimal digits, the smallest first. -/
def hexDigits : List Char :=
  ['0', '1', '2', '3', '4', '5', '6', '7', '8', '9', 'a', 'b', 'c', 'd', 'e', 'f']

/-- The number that hexadecimal digits denote, with what was read before them. -/
def hexValue (before : Nat) (digits : List Char) : Nat :=
  digits.foldl (fun value c => value * 16 + hexDigits.idxOf c) before

/-- The text is `width` lower-case hexadecimal digits that denote `n`. -/
structure HexNumeral (width n : Nat) (text : String) : Prop where
  length : text.toList.length = width
  digits : ∀ c ∈ text.toList, c ∈ hexDigits
  value : hexValue 0 text.toList = n

theorem hexDigits_digitChar {d : Nat} (h : d < 16) :
    Nat.digitChar d ∈ hexDigits ∧ hexDigits.idxOf (Nat.digitChar d) = d := by
  have hall : ∀ d ∈ List.range 16,
      Nat.digitChar d ∈ hexDigits ∧ hexDigits.idxOf (Nat.digitChar d) = d := by decide
  exact hall d (List.mem_range.mpr h)

theorem length_digitsOf (base width n : Nat) : (digitsOf base width n).length = width := by
  induction width with
  | zero => rfl
  | succ width ih => simp [digitsOf, ih]

theorem mem_hexDigits {width n : Nat} {c : Char} (h : c ∈ digitsOf 16 width n) : c ∈ hexDigits := by
  induction width with
  | zero => cases h
  | succ width ih =>
    rcases List.mem_cons.mp h with rfl | h
    · exact (hexDigits_digitChar (Nat.mod_lt _ (by decide))).1
    · exact ih h

theorem hexValue_digitsOf (before width n : Nat) :
    hexValue before (digitsOf 16 width n) = before * 16 ^ width + n % 16 ^ width := by
  induction width generalizing before with
  | zero => simp [hexValue, digitsOf, Nat.mod_one]
  | succ width ih =>
    have hdigit := (hexDigits_digitChar (Nat.mod_lt (n / 16 ^ width) (by decide : 0 < 16))).2
    have hrest := ih (before * 16 + n / 16 ^ width % 16)
    unfold hexValue at hrest ⊢
    rw [digitsOf, List.foldl_cons, hdigit, hrest, Nat.mod_pow_succ, Nat.pow_succ]
    ring

/-- Numbers that fit are written in full. -/
theorem hexNumeral_hex {width n : Nat} (hw : 0 < width) (hn : n < 16 ^ width) :
    HexNumeral width n (hex width n) := by
  have hdigits := hex_toList hw hn
  constructor
  · rw [hdigits, length_digitsOf]
  · rw [hdigits]
    exact fun c => mem_hexDigits
  · rw [hdigits, hexValue_digitsOf, Nat.zero_mul, Nat.zero_add, Nat.mod_eq_of_lt hn]

end Text

namespace StableId

/-! ## The polynomial -/

/-- The polynomial in 31 with the bytes as coefficients, that of the highest power first. -/
def powerSum (bytes : List UInt8) : Nat :=
  ∑ i : Fin bytes.length, bytes[i].toNat * 31 ^ (bytes.length - 1 - i)

theorem powerSum_cons (b : UInt8) (bytes : List UInt8) :
    powerSum (b :: bytes) = b.toNat * 31 ^ bytes.length + powerSum bytes := by
  have hpower (i : Fin bytes.length) :
      bytes.length - (i.val + 1) = bytes.length - 1 - i.val := by omega
  unfold powerSum
  refine (Fin.sum_univ_succ _).trans ?_
  simp [hpower]

/-- Reducing at every byte is the same as reducing once. -/
theorem foldl_step (bytes : List UInt8) (h : UInt64) :
    (bytes.foldl step h).toNat = (h.toNat * 31 ^ bytes.length + powerSum bytes) % 2 ^ 64 := by
  induction bytes generalizing h with
  | nil => simp [powerSum, Nat.mod_eq_of_lt h.toNat_lt]
  | cons b bytes ih =>
    have hstep : (step h b).toNat = (h.toNat * 31 + b.toNat) % 2 ^ 64 := by
      simp [step, UInt64.toNat_add, UInt64.toNat_mul]
    rw [List.foldl_cons, ih, hstep, powerSum_cons, List.length_cons, Nat.add_mod, Nat.mod_mul_mod,
      ← Nat.add_mod, Nat.pow_succ]
    congr 1
    ring

theorem polynomial_eq (key : String) :
    (polynomial key).toNat = powerSum key.toUTF8.toList % 2 ^ 64 := by
  have hfold := foldl_step key.toUTF8.toList 0
  simpa [polynomial] using hfold

/-! ## Signed words -/

/-- The number modulo `2 ^ 64`, as a signed word holds it. -/
structure SignedWord (p : Nat) (s : Int) : Prop where
  low : -2 ^ 63 ≤ s
  high : s < 2 ^ 63
  congr : (2 ^ 64 : Int) ∣ p - s

theorem SignedWord.unique {p : Nat} {s s' : Int} (h : SignedWord p s) (h' : SignedWord p s') :
    s = s' := by
  obtain ⟨hlow, hhigh, k, hk⟩ := h
  obtain ⟨hlow', hhigh', k', hk'⟩ := h'
  omega

theorem signedWord_exists (p : Nat) :
    ∃ s : Int, SignedWord p s ∧
      s.natAbs = if p % 2 ^ 64 < 2 ^ 63 then p % 2 ^ 64 else 2 ^ 64 - p % 2 ^ 64 := by
  by_cases h : p % 2 ^ 64 < 2 ^ 63
  · rw [if_pos h]
    exact ⟨(p % 2 ^ 64 : Nat), ⟨by omega, by omega, by omega⟩, by omega⟩
  · rw [if_neg h]
    exact ⟨(p % 2 ^ 64 : Nat) - 2 ^ 64, ⟨by omega, by omega, by omega⟩, by omega⟩

/-! ## Hashes and ids -/

theorem hash_numeral (key : String) :
    Text.HexNumeral 8 (signedSize (polynomial key) % 2 ^ 32) (hash key) :=
  Text.hexNumeral_hex (by decide) (Nat.mod_lt _ (by decide))

/-- The bytes of a key make a polynomial in 31, and the hash of the key is the eight
hexadecimal digits of its size as a signed word of 64 bits, less all above 32 bits. The one
word whose size is out of range has a hash of zeros. Every id is the template with a sign
and eight digits behind it. -/
theorem hash_closed_form :
    (∀ key : String, ∃ s : Int, SignedWord (powerSum key.toUTF8.toList) s ∧
      (∀ s', SignedWord (powerSum key.toUTF8.toList) s' → s' = s) ∧
      (polynomial key).toNat = powerSum key.toUTF8.toList % 2 ^ 64 ∧
      Text.HexNumeral 8 (s.natAbs % 2 ^ 32) (hash key) ∧
      (s = -2 ^ 63 → hash key = "00000000")) ∧
    ∀ (templateId childId : String) (entityId : Option String) (days : Int),
      ∃ digits n, Text.HexNumeral 8 n digits ∧
        digits = hash (key templateId childId entityId days) ∧
        cardId templateId childId entityId days = templateId ++ "-" ++ digits := by
  constructor
  · intro key
    obtain ⟨s, hsigned, hsize⟩ := signedWord_exists (powerSum key.toUTF8.toList)
    have hhash : signedSize (polynomial key) = s.natAbs := by
      unfold signedSize
      rw [polynomial_eq, hsize]
    have hnumeral := hash_numeral key
    rw [hhash] at hnumeral
    refine ⟨s, hsigned, fun s' h' => h'.unique hsigned, polynomial_eq key, hnumeral, ?_⟩
    rintro rfl
    unfold hash
    rw [hhash]
    decide
  · intro templateId childId entityId days
    exact ⟨_, _, hash_numeral _, rfl, rfl⟩

/-- A key whose polynomial is the one word that is out of range. -/
def leastKey : String := "CWEQIATBZGJKIU"

theorem hash_closed_form_least :
    ∃ s : Int, SignedWord (powerSum leastKey.toUTF8.toList) s ∧ s = -2 ^ 63 ∧
      hash leastKey = "00000000" := by
  obtain ⟨hkeys, -⟩ := hash_closed_form
  obtain ⟨s, hsigned, hunique, hpolynomial, -, hzeros⟩ := hkeys leastKey
  have hword : (polynomial leastKey).toNat = 2 ^ 63 := by decide +kernel
  rw [hword] at hpolynomial
  have hleast : SignedWord (powerSum leastKey.toUTF8.toList) (-2 ^ 63) :=
    ⟨by omega, by omega, by omega⟩
  have hs : s = -2 ^ 63 := (hunique _ hleast).symm
  exact ⟨s, hsigned, hs, hzeros hs⟩

end StableId

end MomentInsights
