-- JSON text as it is written here reads back: quoted strings, objects whose members are
-- strings, and arrays of such objects. A string reads back with its pairs of halves
-- joined, since both halves are written by their units. Joined halves stay joined.
import MomentInsights.Json.Reader
import MomentInsights.Proofs.Digits
import MomentInsights.Proofs.Order
import MomentInsights.Proofs.Outcome

namespace MomentInsights.Json

/-! ## What is written -/

theorem quote_toList (w : WideText) :
    (quote w).toList = '"' :: (w.points.flatMap quotePoint ++ ['"']) := by
  simp [quote]

/-- The elements with a comma and a blank between them. -/
def separated : List (List Char) → List Char
  | [] => []
  | x :: xs => x ++ xs.flatMap fun y => ',' :: ' ' :: y

theorem intercalate_eq_separated (xs : List (List Char)) :
    [',', ' '].intercalate xs = separated xs := by
  cases xs with
  | nil => rfl
  | cons x xs =>
    simp only [separated]
    induction xs generalizing x with
    | nil => simp
    | cons y ys ih => rw [List.intercalate_cons_cons, ih]; simp

theorem separated_singleton (x : List Char) : separated [x] = x := by
  simp [separated]

theorem separated_cons (x : List Char) (xs : List (List Char)) :
    separated (x :: xs) = x ++ xs.flatMap fun y => ',' :: ' ' :: y := rfl

theorem separated_cons_cons (x y : List Char) (zs : List (List Char)) :
    separated (x :: y :: zs) = x ++ ',' :: ' ' :: separated (y :: zs) := by
  simp [separated]

/-- Each element and each separator has its place in the text. -/
theorem length_le_separated {xs : List (List Char)} {y : List Char} (hy : y ∈ xs) :
    y.length + xs.length ≤ (separated xs).length + 1 := by
  induction xs generalizing y with
  | nil => cases hy
  | cons x xs ih =>
    cases xs with
    | nil => simp_all [separated]
    | cons z zs =>
      have hz := ih (y := z) List.mem_cons_self
      simp only [separated, List.flatMap_cons, List.length_append, List.length_cons] at ih hz ⊢
      rcases List.mem_cons.1 hy with rfl | hy
      · omega
      · have := ih hy
        omega

/-- A member of an object: its name and its string. -/
def memberChars (m : String × WideText) : List Char :=
  (quote m.1).toList ++ ':' :: ' ' :: (quote m.2).toList

def objectChars (ms : List (String × WideText)) : List Char :=
  '{' :: (separated (ms.map memberChars) ++ ['}'])

def arrayChars (xs : List (List (String × WideText))) : List Char :=
  '[' :: (separated (xs.map objectChars) ++ [']'])

/-- A member as it reads back. -/
def readMember (m : String × WideText) : String × Json := (m.1, text m.2.joined)

/-- The object that the members make. -/
def textObject (ms : List (String × WideText)) : Json := .obj (ms.map readMember)

/-- The members have names, and each name once. -/
structure Named (ms : List (String × WideText)) : Prop where
  some : ms ≠ []
  apart : (ms.map Prod.fst).Nodup

namespace Reader

open Text

/-! ## Escapes -/

section Escapes

variable {ps tail : List Point} {p : Point}

/-- The digits of a unit are read where more text follows. -/
theorem unit?_hex {n : Nat} (hn : n < 65536) (htail : tail ≠ []) :
    unit? ((hex 4 n).toList.map .char ++ tail) = some n ∧
      ((hex 4 n).toList.map Point.char ++ tail).drop 4 = tail := by
  obtain ⟨a, b, c, d, hchars, hread⟩ := hex_four hn
  obtain ⟨next, rest, rfl⟩ := List.exists_cons_of_ne_nil htail
  rw [hchars]
  exact ⟨hread, rfl⟩

theorem lowHalf?_unitEscape {n : Nat} (hn : n < 65536) (htail : tail ≠ []) :
    lowHalf? ((unitEscape n).map .char ++ tail) = (Point.ofNumber n).low? := by
  have hunit := (unit?_hex hn htail).1
  simp only [unitEscape, List.map_cons, List.cons_append, lowHalf?]
  rw [hunit]
  rfl

/-- What is written for a code point: itself, a letter behind a backslash, or its units. -/
theorem quotePoint_cases (p : Point) :
    (∃ c, p = .char c ∧ quotePoint p = [c] ∧ c ≠ '"' ∧ c ≠ '\\' ∧ 32 ≤ c.toNat) ∨
      (∃ e c, p = .char c ∧ quotePoint p = ['\\', e] ∧ e ≠ 'u' ∧ escaped? (.char e) = some c) ∨
        quotePoint p = p.units.flatMap unitEscape := by
  have hchar {c : Char} (hn : p.number = c.toNat) : p = .char c := Point.number_injective hn
  have hletter (e c : Char) (hn : p.number = c.toNat) (hquote : quotePoint p = ['\\', e])
      (he : e ≠ 'u') (hc : escaped? (.char e) = some c) :
      ∃ e c, p = .char c ∧ quotePoint p = ['\\', e] ∧ e ≠ 'u' ∧ escaped? (.char e) = some c :=
    ⟨e, c, hchar hn, hquote, he, hc⟩
  by_cases h1 : p.number = '"'.toNat
  · exact Or.inr (Or.inl (hletter '"' '"' h1 (by simp [quotePoint, h1]) (by decide) rfl))
  by_cases h2 : p.number = '\\'.toNat
  · exact Or.inr (Or.inl (hletter '\\' '\\' h2 (by simp [quotePoint, h2]) (by decide) rfl))
  by_cases h3 : p.number = '\n'.toNat
  · exact Or.inr (Or.inl (hletter 'n' '\n' h3 (by simp [quotePoint, h3]) (by decide) rfl))
  by_cases h4 : p.number = '\r'.toNat
  · exact Or.inr (Or.inl (hletter 'r' '\r' h4 (by simp [quotePoint, h4]) (by decide) rfl))
  by_cases h5 : p.number = '\t'.toNat
  · exact Or.inr (Or.inl (hletter 't' '\t' h5 (by simp [quotePoint, h5]) (by decide) rfl))
  by_cases h6 : p.number = 8
  · exact Or.inr (Or.inl (hletter 'b' (Char.ofNat 8) h6 (by simp [quotePoint, h6]) (by decide) rfl))
  by_cases h7 : p.number = 12
  · exact Or.inr (Or.inl (hletter 'f' (Char.ofNat 12) h7 (by simp [quotePoint, h7]) (by decide) rfl))
  simp only [quotePoint, h1, h2, h3, h4, h5, h6, h7, if_false]
  by_cases h8 : 32 ≤ p.number ∧ p.number ≤ 126
  · left
    have hvalid : p.number.isValidChar := by simp only [Nat.isValidChar]; omega
    have hn : p.number = (Char.ofNat p.number).toNat := by
      rw [Char.ofNat, dif_pos hvalid]
      rfl
    refine ⟨Char.ofNat p.number, hchar hn, if_pos h8, ?_, ?_, ?_⟩
    · exact fun h => h1 (hn.trans (congrArg Char.toNat h))
    · exact fun h => h2 (hn.trans (congrArg Char.toNat h))
    · rw [← hn]
      exact h8.1
  · right
    right
    exact if_neg h8

theorem quotePoint_half (h : p.char? = none) : quotePoint p = unitEscape p.number := by
  rcases quotePoint_cases p with ⟨c, rfl, -⟩ | ⟨e, c, rfl, -⟩ | hquote
  · cases h
  · cases h
  · rcases p.units_cases with ⟨-, hunits⟩ | ⟨i, j, rfl, -⟩
    · rw [hquote, hunits, List.flatMap_singleton]
    · cases h

/-- The escape of a code point is read as that code point, if no low half follows a
high one. -/
theorem escapedPoint?_single {n : Nat} (hn : n < 65536) (htail : tail ≠ [])
    (hp : Point.ofNumber n = p) (hlow : ∀ i, p = .high i → lowHalf? tail = none) :
    escapedPoint? ((hex 4 n).toList.map .char ++ tail) = some (p, 4) := by
  obtain ⟨hunit, hdrop⟩ := unit?_hex hn htail
  simp only [escapedPoint?, hunit, Option.bind_eq_bind, Option.bind_some, hp, hdrop]
  cases p with
  | char c => rfl
  | high i => simp [hlow i rfl]
  | low j => rfl

/-- The escape of a high half takes that of a low half along. -/
theorem escapedPoint?_pair (i j : Fin 0x400) (htail : tail ≠ []) :
    escapedPoint? ((hex 4 (0xD800 + i)).toList.map .char ++
        ((unitEscape (0xDC00 + j)).map .char ++ tail)) = some (.char (Point.pairChar i j), 10) ∧
      ((hex 4 (0xD800 + i)).toList.map Point.char ++
        ((unitEscape (0xDC00 + j)).map Point.char ++ tail)).drop 10 = tail := by
  have hhigh : Point.ofNumber (0xD800 + i) = .high i := Point.ofNumber_number (.high i)
  have hlow : Point.ofNumber (0xDC00 + j) = .low j := Point.ofNumber_number (.low j)
  have hsome : (unitEscape (0xDC00 + j.val)).map Point.char ++ tail ≠ [] := by simp [unitEscape]
  obtain ⟨hunit, hdrop⟩ := unit?_hex (n := 0xD800 + i.val) (by omega) hsome
  have hhalf := lowHalf?_unitEscape (n := 0xDC00 + j.val) (by omega) htail
  constructor
  · simp only [escapedPoint?, hunit, Option.bind_eq_bind, Option.bind_some, hhigh, hdrop, hhalf, hlow,
      Point.low?]
  · have hlength : ((unitEscape (0xDC00 + j.val)).map Point.char).length = 6 := by
      obtain ⟨a, b, c, d, hchars, -⟩ := hex_four (n := 0xDC00 + j.val) (by omega)
      simp [unitEscape, hchars]
    rw [show (10 : Nat) = 4 + 6 from rfl, ← List.drop_drop, hdrop, List.drop_left' hlength]

/-- Behind a high half, what is written for another code point is no low half. -/
theorem lowHalf?_quotePoints (hp : ∀ q ∈ ps.head?, q.low? = none) (rest : List Point) :
    lowHalf? ((ps.flatMap quotePoint).map .char ++ .char '"' :: rest) = none := by
  cases ps with
  | nil => rfl
  | cons q ps =>
    have hlow : q.low? = none := hp q rfl
    rw [List.flatMap_cons, List.map_append, List.append_assoc]
    generalize htail : (ps.flatMap quotePoint).map Point.char ++ Point.char '"' :: rest = tail
    have hne : tail ≠ [] := by simp [← htail]
    rcases quotePoint_cases q with ⟨c, -, hquote, -, hback, -⟩ | ⟨e, c, -, hquote, he, -⟩ | hquote
    · rw [hquote]
      unfold lowHalf?
      split
      · simp_all
      · rfl
    · rw [hquote]
      unfold lowHalf?
      split
      · simp_all
      · rfl
    · rw [hquote]
      rcases q.units_cases with ⟨hn, hunits⟩ | ⟨i, j, -, hunits⟩
      · rw [hunits, List.flatMap_singleton, lowHalf?_unitEscape hn hne, Point.ofNumber_number, hlow]
      · have hhigh : Point.ofNumber (0xD800 + i) = .high i := Point.ofNumber_number (.high i)
        rw [hunits, List.flatMap_cons, List.map_append, List.append_assoc,
          lowHalf?_unitEscape (by omega) (by simp [unitEscape]), hhigh]
        rfl

end Escapes

/-! ## Strings -/

section Strings

variable {p : Point} {tail : List Point}

/-- An escape stands for a code point. -/
theorem stringRest_unitEscape {n taken : Nat} (h : escapedPoint? ((hex 4 n).toList.map .char ++ tail) =
      some (p, taken)) (opening : Nat) (done : List Point) :
    stringRest opening done ((unitEscape n).map .char ++ tail) =
      stringRest opening (p :: done) (((hex 4 n).toList.map Point.char ++ tail).drop taken) := by
  simp only [unitEscape, List.map_cons, List.cons_append]
  rw [stringRest.eq_def]
  simp [h]

/-- One code point is read from what was written for it, if no low half follows a high
one. -/
theorem stringRest_quotePoint (opening : Nat) (done : List Point) (htail : tail ≠ [])
    (hlow : ∀ i, p = .high i → lowHalf? tail = none) :
    stringRest opening done ((quotePoint p).map .char ++ tail) =
      stringRest opening (p :: done) tail := by
  rcases quotePoint_cases p with
    ⟨c, rfl, hquote, hne, hback, h32⟩ | ⟨e, c, rfl, hquote, he, hc⟩ | hquote
  · rw [hquote]
    simp only [List.map_cons, List.map_nil, List.cons_append, List.nil_append]
    rw [stringRest.eq_def]
    simp [hne, hback, Point.number, Nat.not_lt.2 h32]
  · rw [hquote]
    simp only [List.map_cons, List.map_nil, List.cons_append, List.nil_append]
    rw [stringRest.eq_def]
    simp [he, hc]
  · rw [hquote]
    rcases p.units_cases with ⟨hn, hunits⟩ | ⟨i, j, rfl, hunits⟩
    · rw [hunits, List.flatMap_singleton,
        stringRest_unitEscape (escapedPoint?_single hn htail (Point.ofNumber_number p) hlow),
        (unit?_hex hn htail).2]
    · rw [hunits, List.flatMap_cons, List.flatMap_singleton, List.map_append, List.append_assoc,
        stringRest_unitEscape (escapedPoint?_pair i j htail).1, (escapedPoint?_pair i j htail).2]

/-- The code points after `done` are read up to the closing quote. Pairs of halves are read
as their characters. -/
theorem stringRest_quotePoints (opening : Nat) (done ps rest : List Point) :
    stringRest opening done ((ps.flatMap quotePoint).map .char ++ .char '"' :: rest) =
      .ok (⟨done.reverse ++ Point.joined ps⟩, rest) := by
  induction ps using Point.joined.induct generalizing done with
  | case1 i j ps ih =>
    have hhigh : quotePoint (.high i) = unitEscape (0xD800 + i) := quotePoint_half rfl
    have hlow : quotePoint (.low j) = unitEscape (0xDC00 + j) := quotePoint_half rfl
    have htail : (ps.flatMap quotePoint).map Point.char ++ Point.char '"' :: rest ≠ [] := by simp
    have hpair := escapedPoint?_pair i j htail
    rw [List.flatMap_cons, List.flatMap_cons, hhigh, hlow, List.map_append, List.map_append,
      List.append_assoc, List.append_assoc, stringRest_unitEscape hpair.1, hpair.2, ih]
    simp [Point.joined]
  | case2 p ps hpair ih =>
    rw [List.flatMap_cons, List.map_append, List.append_assoc,
      stringRest_quotePoint _ _ (by simp), ih, Point.joined.eq_2 p ps hpair]
    · simp
    · rintro i rfl
      apply lowHalf?_quotePoints
      intro q hq
      cases q with
      | low j =>
        obtain ⟨ps', rfl⟩ := List.head?_eq_some_iff.mp hq
        exact absurd rfl (hpair i j ps' rfl)
      | char c => rfl
      | high i => rfl
  | case3 => 
    rw [List.flatMap_nil, List.map_nil, List.nil_append, stringRest.eq_def]
    simp [Point.joined]

end Strings

theorem stringRest_quote (opening : Nat) (w : WideText) (rest : List Point) :
    stringRest opening [] ((w.points.flatMap quotePoint).map .char ++ .char '"' :: rest) =
      .ok (w.joined, rest) := by
  rw [stringRest_quotePoints]
  rfl

/-! ## Values -/

theorem skip_cons {p : Point} (h : isSpace p = false) (ps : List Point) :
    skip (p :: ps) = p :: ps := by
  simp [skip, h]

theorem skip_space (ps : List Point) : skip (.char ' ' :: ps) = skip ps := by
  simp [skip, isSpace]

theorem quote_points (w : WideText) (rest : List Point) :
    (quote w).toList.map Point.char ++ rest =
      .char '"' :: ((w.points.flatMap quotePoint).map .char ++ .char '"' :: rest) := by
  rw [quote_toList]
  simp

theorem value_quote (fuel depth : Nat) (w : WideText) (rest : List Point) :
    value (fuel + 1) depth ((quote w).toList.map .char ++ rest) = .ok (text w.joined, rest) := by
  rw [quote_points, value.eq_def]
  simp [stringRest_quote]

/-! ## Objects -/

/-- The members as the reader keeps them, last first. -/
def kept (ms : List (String × WideText)) : List (WideText × Json) :=
  (ms.map fun m => (WideText.ofString m.1, text m.2.joined)).reverse

/-- Members whose names differ are all kept. -/
theorem object_kept {ms : List (String × WideText)} (h : (ms.map Prod.fst).Nodup) :
    object (kept ms) = textObject ms := by
  have hapart : (kept ms).Pairwise fun m n => (n.1 == m.1) = false := by
    unfold kept
    rw [List.pairwise_reverse, List.pairwise_map]
    refine (List.pairwise_map.mp h).imp fun hne => ?_
    simpa using fun hsame => hne (WideText.ofString_injective hsame)
  unfold object textObject
  rw [Order.eraseDupsBy_of_apart hapart]
  simp [kept, readMember, Function.comp_def, WideText.shown_ofString]

/-- One member, with all that may stand behind it. -/
theorem members_member (fuel depth : Nat) (done : List (WideText × Json)) (m : String × WideText)
    (tail : List Point) :
    members (fuel + 2) depth done ((memberChars m).map .char ++ tail) =
      match skip tail with
      | .char '}' :: rest => .ok (object ((.ofString m.1, text m.2.joined) :: done), rest)
      | .char ',' :: r => members (fuel + 1) depth ((.ofString m.1, text m.2.joined) :: done) (skip r)
      | r => .error (.unexpected r.length) := by
  have hchars : (memberChars m).map Point.char ++ tail =
      .char '"' :: (((WideText.ofString m.1).points.flatMap quotePoint).map .char ++
        .char '"' :: (.char ':' :: .char ' ' :: ((quote m.2).toList.map .char ++ tail))) := by
    simp [memberChars, quote_toList]
  have hname : ∀ opening, stringRest opening []
      (((WideText.ofString m.1).points.flatMap quotePoint).map .char ++
        .char '"' :: (.char ':' :: .char ' ' :: ((quote m.2).toList.map .char ++ tail))) =
      .ok (WideText.ofString m.1, .char ':' :: .char ' ' :: ((quote m.2).toList.map .char ++ tail)) := by
    intro opening
    rw [stringRest_quote, WideText.joined_ofString]
  have hskip : skip (.char ' ' :: ((quote m.2).toList.map .char ++ tail)) =
      (quote m.2).toList.map .char ++ tail := by
    rw [skip_space, quote_points, skip_cons (by decide)]
  rw [members.eq_def, hchars]
  simp only [hname, Outcome.ok_bind, skip_cons (show isSpace (.char ':') = false by decide), hskip,
    value_quote fuel depth m.2 tail]
  rfl

theorem skip_memberChars (m : String × WideText) (tail : List Point) :
    skip ((memberChars m).map .char ++ tail) = (memberChars m).map .char ++ tail := by
  rw [memberChars, quote_toList, List.cons_append, List.map_cons, List.cons_append,
    skip_cons (by decide)]

/-- The members up to the brace. Each takes one step of the bound. -/
theorem members_chars (fuel depth : Nat) (before : List (String × WideText)) (m : String × WideText)
    (ms : List (String × WideText)) (rest : List Point) (h : ms.length + 2 ≤ fuel) :
    members fuel depth (kept before)
        ((separated ((m :: ms).map memberChars)).map .char ++ .char '}' :: rest) =
      .ok (object (kept (before ++ m :: ms)), rest) := by
  induction ms generalizing fuel before m with
  | nil =>
    obtain ⟨fuel, rfl⟩ := Nat.exists_eq_add_of_le' (show 2 ≤ fuel by simpa using h)
    rw [List.map_cons, List.map_nil, separated_singleton, members_member,
      skip_cons (show isSpace (.char '}') = false by decide)]
    simp [kept]
  | cons m' ms ih =>
    rw [List.length_cons] at h
    obtain ⟨fuel, rfl⟩ := Nat.exists_eq_add_of_le' (show 2 ≤ fuel by omega)
    have hkept : kept (before ++ [m]) = (.ofString m.1, text m.2.joined) :: kept before := by
      simp [kept]
    have hskip : skip ((separated ((m' :: ms).map memberChars)).map .char ++ .char '}' :: rest) =
        (separated ((m' :: ms).map memberChars)).map .char ++ .char '}' :: rest := by
      rw [List.map_cons, separated_cons, List.map_append, List.append_assoc, skip_memberChars]
    have hrest := ih (fuel + 1) (before ++ [m]) m' (by omega)
    rw [List.append_assoc, hkept] at hrest
    rw [List.map_cons, List.map_cons, separated_cons_cons, List.map_append, List.append_assoc,
      members_member, List.map_cons, List.map_cons, List.cons_append, List.cons_append,
      skip_cons (show isSpace (.char ',') = false by decide)]
    refine Eq.trans ?_ hrest
    exact congrArg (members (fuel + 1) depth _) ((skip_space _).trans hskip)

theorem value_object (fuel depth : Nat) {ms : List (String × WideText)} (rest : List Point)
    (hnamed : Named ms) (h : ms.length + 2 ≤ fuel) :
    value fuel (depth + 1) ((objectChars ms).map .char ++ rest) = .ok (textObject ms, rest) := by
  obtain ⟨m, ms, rfl⟩ := List.exists_cons_of_ne_nil hnamed.some
  rw [List.length_cons] at h
  obtain ⟨fuel, rfl⟩ := Nat.exists_eq_add_of_le' (show 1 ≤ fuel by omega)
  have hmembers := members_chars fuel depth [] m ms rest (by omega)
  rw [List.nil_append, object_kept hnamed.apart] at hmembers
  obtain ⟨ps, hps⟩ : ∃ ps, (separated ((m :: ms).map memberChars)).map .char ++
      .char '}' :: rest = .char '"' :: ps := by
    rw [List.map_cons, separated_cons, memberChars, quote_toList]
    exact ⟨_, rfl⟩
  have hchars : (objectChars (m :: ms)).map Point.char ++ rest =
      .char '{' :: ((separated ((m :: ms).map memberChars)).map .char ++ .char '}' :: rest) := by
    simp [objectChars]
  rw [hchars, value.eq_def]
  simp only [hps] at hmembers ⊢
  exact hmembers

/-! ## Arrays -/

theorem skip_objectChars (ms : List (String × WideText)) (tail : List Point) :
    skip ((objectChars ms).map .char ++ tail) = (objectChars ms).map .char ++ tail := by
  rw [objectChars, List.map_cons, List.cons_append, skip_cons (by decide)]

/-- The objects up to the bracket. The bound covers the members of each. -/
theorem items_chars (fuel depth : Nat) (done : List Json) (x : List (String × WideText))
    (xs : List (List (String × WideText))) (rest : List Point)
    (h : ∀ y ∈ x :: xs, Named y ∧ y.length + xs.length + 3 ≤ fuel) :
    items fuel (depth + 1) done
        ((separated ((x :: xs).map objectChars)).map .char ++ .char ']' :: rest) =
      .ok (.arr (done.reverse ++ (x :: xs).map textObject), rest) := by
  induction xs generalizing fuel done x with
  | nil =>
    obtain ⟨hx, hfuel⟩ := h x List.mem_cons_self
    obtain ⟨fuel, rfl⟩ := Nat.exists_eq_add_of_le' (show 1 ≤ fuel by omega)
    rw [List.map_cons, List.map_nil, separated_singleton, items.eq_def]
    simp only [List.length_nil] at hfuel
    simp [value_object fuel depth _ hx (by omega), skip_cons (show isSpace (.char ']') = false by decide)]
  | cons y ys ih =>
    obtain ⟨hx, hfuel⟩ := h x List.mem_cons_self
    obtain ⟨fuel, rfl⟩ := Nat.exists_eq_add_of_le' (show 1 ≤ fuel by omega)
    rw [List.length_cons] at hfuel
    have hrest := ih fuel (textObject x :: done) y (by
      intro z hz
      obtain ⟨hnamed, hlen⟩ := h z (List.mem_cons_of_mem _ hz)
      rw [List.length_cons] at hlen
      exact ⟨hnamed, by omega⟩)
    have hskip : skip (.char ' ' :: ((separated ((y :: ys).map objectChars)).map .char ++
        .char ']' :: rest)) =
        (separated ((y :: ys).map objectChars)).map .char ++ .char ']' :: rest := by
      rw [skip_space, List.map_cons, separated_cons, List.map_append, List.append_assoc,
        skip_objectChars]
    rw [List.map_cons, List.map_cons, separated_cons_cons, List.map_append, List.append_assoc,
      items.eq_def]
    simp only [value_object fuel depth _ hx (by omega), Outcome.ok_bind, List.map_cons,
      List.cons_append, skip_cons (show isSpace (.char ',') = false by decide)]
    rw [List.map_cons] at hskip hrest
    rw [hskip, hrest]
    simp

theorem value_array (fuel depth : Nat) {xs : List (List (String × WideText))} (rest : List Point)
    (h : ∀ y ∈ xs, Named y ∧ y.length + xs.length + 2 ≤ fuel) :
    value (fuel + 1) (depth + 2) ((arrayChars xs).map .char ++ rest) =
      .ok (.arr (xs.map textObject), rest) := by
  have hchars : (arrayChars xs).map Point.char ++ rest =
      .char '[' :: ((separated (xs.map objectChars)).map .char ++ .char ']' :: rest) := by
    simp [arrayChars]
  rw [hchars, value.eq_def]
  cases xs with
  | nil => rfl
  | cons x xs =>
    have hitems := items_chars fuel depth [] x xs rest (by
      intro y hy
      obtain ⟨hnamed, hlen⟩ := h y hy
      rw [List.length_cons] at hlen
      exact ⟨hnamed, by omega⟩)
    obtain ⟨ps, hps⟩ : ∃ ps, (separated ((x :: xs).map objectChars)).map .char ++
        .char ']' :: rest = .char '{' :: ps := by
      rw [List.map_cons, separated_cons, objectChars]
      exact ⟨_, rfl⟩
    simp only [hps] at hitems ⊢
    exact hitems

end Reader

/-- The brackets and braces leave room for the bound of the reader. -/
theorem arrayChars_bound {xs : List (List (String × WideText))} {y : List (String × WideText)}
    (hy : y ∈ xs) : y.length + xs.length + 2 ≤ 2 * (arrayChars xs).length := by
  have hmembers : y.length ≤ (objectChars y).length := by
    cases y with
    | nil => simp
    | cons m ms =>
      have hm := length_le_separated
        (List.mem_map_of_mem (f := memberChars) (List.mem_cons_self (a := m) (l := ms)))
      simp only [List.length_map, objectChars, List.length_cons, List.length_append] at hm ⊢
      have : 0 < (memberChars m).length := by
        simp only [memberChars, List.length_append, List.length_cons]
        omega
      omega
  have hobjects := length_le_separated (List.mem_map_of_mem (f := objectChars) hy)
  simp only [List.length_map, arrayChars, List.length_cons, List.length_append] at hobjects ⊢
  omega

/-- An array of objects of strings reads back wherever two levels can be read. -/
theorem read_arrayChars {xs : List (List (String × WideText))} (h : ∀ x ∈ xs, Named x) {depth : Nat}
    (hdepth : 2 ≤ depth) :
    read depth (String.ofList (arrayChars xs)) = .ok (.arr (xs.map textObject)) := by
  obtain ⟨depth, rfl⟩ := Nat.exists_eq_add_of_le' hdepth
  have hpoints : (WideText.ofString (String.ofList (arrayChars xs))).points =
      (arrayChars xs).map .char := by
    rw [WideText.ofString, String.toList_ofList]
  have hvalue := Reader.value_array (2 * (arrayChars xs).length + 1) depth [] (fun y hy =>
    ⟨h y hy, by have := arrayChars_bound hy; omega⟩)
  have hskip : Reader.skip ((arrayChars xs).map .char) = (arrayChars xs).map .char := by
    rw [arrayChars, List.map_cons, Reader.skip_cons (by decide)]
  have hdocument : Reader.document (depth + 2) ((arrayChars xs).map .char) =
      .ok (.arr (xs.map textObject)) := by
    rw [List.append_nil] at hvalue
    rw [Reader.document, hskip, List.length_map, hvalue]
    rfl
  simp [read, hpoints, hdocument]

end MomentInsights.Json
