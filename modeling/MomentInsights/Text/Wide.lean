-- Text in code points. Half of a surrogate pair is a code point by itself, so there
-- is more of such text than there are strings. Two halves side by side are not the
-- character that they stand for in 16-bit units: they become it only where text is
-- read whose halves are joined.

namespace MomentInsights

/-! ## Code points -/

/-- A code point: a character, or a half of a surrogate pair by its number among
the high or the low ones. -/
inductive Point where
  | char (c : Char)
  | high (i : Fin 0x400)
  | low (i : Fin 0x400)
  deriving DecidableEq, Repr

namespace Point

def number : Point → Nat
  | char c => c.toNat
  | high i => 0xD800 + i
  | low i => 0xDC00 + i

/-- The code point with the number, which is below 0x110000. -/
def ofNumber (n : Nat) : Point :=
  if h : 0xD800 ≤ n ∧ n < 0xDC00 then high ⟨n - 0xD800, by omega⟩
  else if h : 0xDC00 ≤ n ∧ n < 0xE000 then low ⟨n - 0xDC00, by omega⟩
  else char (Char.ofNat n)

def char? : Point → Option Char
  | char c => some c
  | _ => none

def high? : Point → Option (Fin 0x400)
  | high i => some i
  | _ => none

def low? : Point → Option (Fin 0x400)
  | low j => some j
  | _ => none

def isHalf (p : Point) : Bool := p.char?.isNone

/-! ## Pairs of halves -/

/-- The character that two halves stand for. -/
def pairChar (i j : Fin 0x400) : Char := Char.ofNat (0x10000 + i * 0x400 + j)

/-- The 16-bit units of a code point. -/
def units (p : Point) : List Nat :=
  let n := p.number
  if n < 0x10000 then [n]
  else [0xD800 + (n - 0x10000) / 0x400, 0xDC00 + (n - 0x10000) % 0x400]

/-- The code points with each high half and the low half behind it joined. -/
def joined : List Point → List Point
  | high i :: low j :: ps => char (pairChar i j) :: joined ps
  | p :: ps => p :: joined ps
  | [] => []

/-! ## Laws -/

theorem number_lt (p : Point) : p.number < 0x110000 := by
  cases p with
  | char c =>
    have hc : c.toNat < 0xD800 ∨ 0xDFFF < c.toNat ∧ c.toNat < 0x110000 := c.valid
    simp only [number]
    omega
  | high i => simp only [number]; omega
  | low i => simp only [number]; omega

theorem ofNumber_number (p : Point) : ofNumber p.number = p := by
  cases p with
  | char c =>
    have hc : c.toNat < 0xD800 ∨ 0xDFFF < c.toNat ∧ c.toNat < 0x110000 := c.valid
    rw [number, ofNumber, dif_neg (by omega), dif_neg (by omega), Char.ofNat_toNat]
  | high i =>
    rw [number, ofNumber, dif_pos (by omega)]
    simp
  | low i =>
    rw [number, ofNumber, dif_neg (by omega), dif_pos (by omega)]
    simp

theorem number_injective {p q : Point} (h : p.number = q.number) : p = q := by
  rw [← ofNumber_number p, h, ofNumber_number]

theorem pairChar_toNat (i j : Fin 0x400) : (pairChar i j).toNat = 0x10000 + i * 0x400 + j := by
  have hvalid : (0x10000 + i.val * 0x400 + j.val).isValidChar := by
    simp only [Nat.isValidChar]
    omega
  rw [pairChar, Char.ofNat, dif_pos hvalid]
  rfl

/-- A code point is one unit, or the character of two halves, which are its units. -/
theorem units_cases (p : Point) : (p.number < 0x10000 ∧ p.units = [p.number]) ∨
    ∃ i j : Fin 0x400, p = char (pairChar i j) ∧ p.units = [0xD800 + i.val, 0xDC00 + j.val] := by
  have hlt := p.number_lt
  by_cases hn : p.number < 0x10000
  · left
    exact ⟨hn, if_pos hn⟩
  · right
    refine ⟨⟨(p.number - 0x10000) / 0x400, by omega⟩, ⟨(p.number - 0x10000) % 0x400, by omega⟩,
      number_injective ?_, if_neg hn⟩
    rw [number.eq_1 (pairChar _ _), pairChar_toNat]
    dsimp only
    omega

end Point

namespace Text

/-- What stands for something that is no character. -/
def replacement : Char := Char.ofNat 0xFFFD

end Text

/-! ## Text -/

structure WideText where
  points : List Point
  deriving DecidableEq, Repr

namespace WideText

def ofString (s : String) : WideText := ⟨s.toList.map .char⟩

instance : Coe String WideText := ⟨ofString⟩

/-- The numbers of the code points. -/
def codePoints (w : WideText) : List Nat := w.points.map Point.number

/-- The text as a string, unless it has halves of surrogate pairs. -/
def string? (w : WideText) : Option String := String.ofList <$> w.points.mapM Point.char?

/-- The text with a replacement for each half of a surrogate pair. -/
def shown (w : WideText) : String :=
  String.ofList (w.points.map fun p => p.char?.getD Text.replacement)

/-- The text with its pairs of halves joined. -/
def joined (w : WideText) : WideText := ⟨Point.joined w.points⟩

/-- The order of the code points. -/
instance : Ord WideText := ⟨fun a b => compare a.codePoints b.codePoints⟩

theorem string?_ofString (s : String) : (ofString s).string? = some s := by
  have h (cs : List Char) : (cs.map Point.char).mapM Point.char? = some cs := by
    induction cs with
    | nil => rfl
    | cons c cs ih => simp [Point.char?, ih]
  simp [string?, ofString, h]

theorem eq_ofString_of_string? {w : WideText} {s : String} (h : w.string? = some s) :
    w = ofString s := by
  have hm (ps : List Point) (cs : List Char) (hm : ps.mapM Point.char? = some cs) :
      ps = cs.map Point.char := by
    induction ps generalizing cs with
    | nil => cases hm; rfl
    | cons p ps ih =>
      simp only [List.mapM_cons, Option.bind_eq_bind, Option.bind_eq_some_iff, Option.pure_def,
        Option.some.injEq] at hm
      obtain ⟨c, hc, ds, hds, rfl⟩ := hm
      cases p with
      | char d => cases hc; rw [List.map_cons, ← ih ds hds]
      | high i => cases hc
      | low i => cases hc
  simp only [string?, Option.map_eq_map, Option.map_eq_some_iff] at h
  obtain ⟨cs, hcs, rfl⟩ := h
  rw [ofString, String.toList_ofList, ← hm _ _ hcs]

theorem ofString_injective {s t : String} (h : ofString s = ofString t) : s = t :=
  Option.some.inj (by rw [← string?_ofString s, h, string?_ofString t])

theorem joined_ofString (s : String) : (ofString s).joined = ofString s := by
  have h (cs : List Char) : Point.joined (cs.map .char) = cs.map .char := by
    induction cs with
    | nil => rfl
    | cons c cs ih => rw [List.map_cons, Point.joined, ih]; simp
  simp [joined, ofString, h]

theorem shown_ofString (s : String) : (ofString s).shown = s := by
  simp [shown, ofString, Function.comp_def, Point.char?]

end WideText

end MomentInsights
