-- How the texts of a card are filled. The slots are filled one after the other, each over
-- the whole text so far. A value without an opening brace makes no slot of its own, so the
-- text comes out as if every slot had been filled at once.
import MomentInsights.Card.Variables
import MomentInsights.Proofs.Outcome

namespace MomentInsights

/-! ## One name in braces -/

namespace Text

/-- The name in braces. -/
def braced (name : List Char) : List Char := '{' :: (name ++ ['}'])

variable {name name' cs : List Char}

/-- What has no opening brace is passed over. -/
theorem replaceAll_append (h : '{' ∉ cs) (name value rest : List Char) :
    replaceAll (braced name) value (cs ++ rest) = cs ++ replaceAll (braced name) value rest := by
  induction cs with
  | nil => rfl
  | cons c cs ih =>
    have hc : '{' ≠ c := List.ne_of_not_mem_cons h
    have hother : (braced name).isPrefixOf (c :: (cs ++ rest)) = false := by
      unfold braced List.isPrefixOf
      rw [beq_false_of_ne hc, Bool.false_and]
    rw [List.cons_append, replaceAll, if_neg (by simp [hother]),
      ih (List.not_mem_of_not_mem_cons h), List.cons_append]

theorem replaceAll_braced (name value rest : List Char) :
    replaceAll (braced name) value (braced name ++ rest) =
      value ++ replaceAll (braced name) value rest := by
  have hfirst : (braced name).isPrefixOf (braced name ++ rest) = true :=
    List.isPrefixOf_iff_prefix.mpr (List.prefix_append _ _)
  have hlength : (braced name).length - 1 = (name ++ ['}']).length := rfl
  change replaceAll (braced name) value ('{' :: (name ++ ['}'] ++ rest)) = _
  rw [replaceAll, if_pos ⟨List.cons_ne_nil _ _, hfirst⟩, hlength, List.drop_left]

/-- Two names that are closed by the same brace are the same. -/
theorem eq_of_closed {rest : List Char} (h : '}' ∉ name) (h' : '}' ∉ name')
    (hstarts : name ++ ['}'] <+: name' ++ '}' :: rest) : name = name' := by
  induction name generalizing name' with
  | nil =>
    cases name' with
    | nil => rfl
    | cons c' cs' =>
      obtain ⟨hclose, -⟩ := List.cons_prefix_cons.mp hstarts
      exact absurd (hclose ▸ List.mem_cons_self) h'
  | cons c cs ih =>
    cases name' with
    | nil =>
      obtain ⟨hclose, -⟩ := List.cons_prefix_cons.mp hstarts
      exact absurd (hclose ▸ List.mem_cons_self) h
    | cons c' cs' =>
      obtain ⟨rfl, hrest⟩ := List.cons_prefix_cons.mp hstarts
      rw [ih (List.not_mem_of_not_mem_cons h) (List.not_mem_of_not_mem_cons h') hrest]

/-- Another name is passed over. -/
theorem replaceAll_braced_ne (hne : name ≠ name') (h : '}' ∉ name) (h' : '}' ∉ name')
    (hopen : '{' ∉ name') (value rest : List Char) :
    replaceAll (braced name) value (braced name' ++ rest) =
      braced name' ++ replaceAll (braced name) value rest := by
  have hother : ¬ (braced name).isPrefixOf (braced name' ++ rest) = true := by
    rw [List.isPrefixOf_iff_prefix]
    intro hstarts
    have hnames : name ++ ['}'] <+: name' ++ ['}'] ++ rest := (List.cons_prefix_cons.mp hstarts).2
    rw [List.append_assoc] at hnames
    exact hne (eq_of_closed h h' hnames)
  have hplain : '{' ∉ name' ++ ['}'] := by simp [hopen]
  have hrest := replaceAll_append hplain name value rest
  change replaceAll (braced name) value ('{' :: (name' ++ ['}'] ++ rest)) = _
  rw [replaceAll, if_neg (fun h => hother h.2), hrest]
  rfl

end Text

/-! ## One slot of a text -/

namespace Slot

theorem name_plain (s : Slot) : '{' ∉ s.name.toList ∧ '}' ∉ s.name.toList := by
  cases s <;> decide +kernel

theorem name_injective {s s' : Slot} (h : s.name = s'.name) : s = s' := by
  revert h
  cases s <;> cases s' <;> decide

theorem placeholder_toList (s : Slot) : s.placeholder.toList = Text.braced s.name.toList := by
  unfold placeholder
  rw [String.toList_append, String.toList_append]
  rfl

end Slot

/-- A text without an opening brace. -/
def Plain (text : String) : Prop := '{' ∉ text.toList

namespace Piece

/-- The slot gets its value, if it has one. -/
def put (s : Slot) (value : Option String) : Piece → Piece
  | say words => say words
  | slot s' => if s' = s then (value.map say).getD (slot s) else slot s'

theorem put_self (s : Slot) (x : String) : (slot s).put s (some x) = say x := if_pos rfl

theorem put_ne {s s' : Slot} (h : s' ≠ s) (value : Option String) :
    (slot s').put s value = slot s' := if_neg h

/-- The piece with its value in place of a slot, if the slot has one. -/
def filled (value : Slot → Option String) : Piece → Piece
  | say words => say words
  | slot s => ((value s).map say).getD (slot s)

end Piece

/-- All words of the pieces are plain, and so are the values that come into them. -/
structure Fillable (value : Slot → Option String) (ps : List Piece) : Prop where
  words : ∀ w, Piece.say w ∈ ps → Plain w
  values : ∀ s x, Piece.slot s ∈ ps → value s = some x → Plain x

theorem written_cons (p : Piece) (ps : List Piece) :
    (written (p :: ps)).toList = p.written.toList ++ (written ps).toList := by
  unfold written
  rw [List.map_cons, String.join_cons, String.toList_append]

/-- Filling a slot puts its value in its places, whatever the value holds. -/
theorem replaceAll_written {ps : List Piece} (hwords : ∀ w, Piece.say w ∈ ps → Plain w) (s : Slot)
    (x : String) :
    Text.replaceAll s.placeholder.toList x.toList (written ps).toList =
      (written (ps.map (Piece.put s (some x)))).toList := by
  induction ps with
  | nil => simp [written, Text.replaceAll]
  | cons p ps ih =>
    have hrest := ih fun w hw => hwords w (List.mem_cons_of_mem _ hw)
    rw [List.map_cons, written_cons, written_cons, ← hrest, s.placeholder_toList]
    cases p with
    | say w => exact Text.replaceAll_append (hwords w List.mem_cons_self) _ _ _
    | slot s' =>
      change Text.replaceAll _ _ (s'.placeholder.toList ++ _) = _
      by_cases hs : s' = s
      · subst hs
        rw [s'.placeholder_toList, Text.replaceAll_braced, Piece.put_self]
        rfl
      · have hne : s.name.toList ≠ s'.name.toList := by
          intro h
          exact hs (Slot.name_injective (String.toList_injective h)).symm
        obtain ⟨-, hclose⟩ := s.name_plain
        obtain ⟨hopen', hclose'⟩ := s'.name_plain
        rw [s'.placeholder_toList, Text.replaceAll_braced_ne hne hclose hclose' hopen',
          Piece.put_ne hs, ← s'.placeholder_toList]
        rfl

/-! ## All slots of a text -/

section AllSlots

variable {value : Slot → Option String} {ps : List Piece}

/-- What the slots become when they are filled in turn. -/
def Piece.putAll (value : Slot → Option String) (slots : List Slot) (p : Piece) : Piece :=
  slots.foldl (fun p s => p.put s (value s)) p

theorem Piece.put_none (s : Slot) (p : Piece) : p.put s none = p := by
  cases p with
  | say w => rfl
  | slot s' =>
    by_cases hs : s' = s
    · subst hs
      exact if_pos rfl
    · exact put_ne hs none

theorem Piece.putAll_say (slots : List Slot) (w : String) :
    (say w).putAll value slots = say w := by
  induction slots with
  | nil => rfl
  | cons s slots ih => exact ih

theorem Piece.putAll_none {s : Slot} (h : value s = none) (slots : List Slot) :
    (slot s).putAll value slots = slot s := by
  induction slots with
  | nil => rfl
  | cons s' slots ih =>
    have hkept : (slot s).put s' (value s') = slot s := by
      by_cases hs : s = s'
      · rw [← hs, h, put_none]
      · exact put_ne hs _
    unfold putAll at ih ⊢
    rw [List.foldl_cons, hkept, ih]

theorem Piece.putAll_some {s : Slot} {x : String} (h : value s = some x) {slots : List Slot}
    (hs : s ∈ slots) : (slot s).putAll value slots = say x := by
  induction slots with
  | nil => cases hs
  | cons s' slots ih =>
    change ((slot s).put s' (value s')).putAll value slots = say x
    by_cases hsame : s = s'
    · rw [← hsame, h, put_self, putAll_say]
    · rw [put_ne hsame]
      exact ih ((List.mem_cons.mp hs).resolve_left hsame)

/-- Once every slot had its turn, the piece is filled. -/
theorem Piece.putAll_all (p : Piece) : p.putAll value Slot.all = p.filled value := by
  cases p with
  | say w => exact putAll_say _ w
  | slot s =>
    have hall : s ∈ Slot.all := by cases s <;> decide
    have hfilled : (slot s).filled value = ((value s).map say).getD (slot s) := rfl
    rw [hfilled]
    cases hvalue : value s with
    | none => exact putAll_none hvalue _
    | some x => exact putAll_some hvalue hall

theorem Fillable.put (h : Fillable value ps) (s : Slot) :
    Fillable value (ps.map (Piece.put s (value s))) := by
  have hcases (p : Piece) : p.put s (value s) = p ∨
      p = Piece.slot s ∧ ∃ x, value s = some x ∧ p.put s (value s) = Piece.say x := by
    cases hvalue : value s with
    | none => exact Or.inl (Piece.put_none s p)
    | some x =>
      cases p with
      | say w => exact Or.inl rfl
      | slot s' =>
        by_cases hs : s' = s
        · subst hs
          exact Or.inr ⟨rfl, x, rfl, Piece.put_self s' x⟩
        · exact Or.inl (Piece.put_ne hs _)
  constructor
  · intro w hw
    obtain ⟨p, hp, hput⟩ := List.mem_map.mp hw
    rcases hcases p with hkept | ⟨rfl, x, hx, hsay⟩
    · rw [hkept] at hput
      exact h.words w (hput ▸ hp)
    · rw [hsay] at hput
      cases hput
      exact h.values s _ hp hx
  · intro s' x hs' hx
    obtain ⟨p, hp, hput⟩ := List.mem_map.mp hs'
    rcases hcases p with hkept | ⟨rfl, x, hx, hsay⟩
    · rw [hkept] at hput
      exact h.values s' _ (hput ▸ hp) hx
    · rw [hsay] at hput
      cases hput

/-- The values of the slots that have one, by name. -/
def named (value : Slot → Option String) (slots : List Slot) : List (String × String) :=
  slots.filterMap fun s => (value s).map fun x => (s.name, x)

theorem fill_named (h : Fillable value ps) (slots : List Slot) :
    fill (named value slots) (written ps) = written (ps.map (Piece.putAll value slots)) := by
  induction slots generalizing ps with
  | nil =>
    have hkept : ps.map (Piece.putAll value []) = ps := List.map_id ps
    rw [hkept]
    exact String.ofList_toList
  | cons s slots ih =>
    have hrest := ih (h.put s)
    have hturn : (ps.map (Piece.put s (value s))).map (Piece.putAll value slots) =
        ps.map (Piece.putAll value (s :: slots)) := List.map_map
    rw [hturn] at hrest
    rw [← hrest]
    unfold named
    cases hvalue : value s with
    | none =>
      have hkept : ps.map (Piece.put s none) = ps := by
        rw [List.map_congr_left fun p _ => Piece.put_none s p, List.map_id']
      rw [List.filterMap_cons_none (by rw [hvalue]; rfl), hkept]
    | some x =>
      rw [List.filterMap_cons_some (by rw [hvalue]; rfl)]
      unfold fill
      rw [List.foldl_cons]
      have hstep := replaceAll_written h.words s x
      unfold Slot.placeholder at hstep
      rw [hstep]

/-- The slots of a text are filled as if all at once. -/
theorem fill_written (h : Fillable value ps) :
    fill (named value Slot.all) (written ps) = written (ps.map (Piece.filled value)) := by
  rw [fill_named h, List.map_congr_left fun p _ => Piece.putAll_all p]

end AllSlots

/-! ## The values of a card -/

namespace Variables

variable {v : Variables} {args : List (String × String)}

/-- The text of the slot, where it has a value that can be written. -/
def value (v : Variables) (s : Slot) : Option String := (v.valueOf s).toOption.join

theorem args_eq (h : v.args = .ok args) : args = named v.value Slot.all := by
  unfold Variables.args at h
  obtain ⟨found, hfound, hargs⟩ := Outcome.bind_eq_ok.mp h
  cases hargs
  clear h
  rw [Outcome.mapM_eq_ok] at hfound
  unfold named
  generalize Slot.all = slots at hfound
  induction hfound with
  | nil => rfl
  | @cons s x slots found hx _ ih =>
    obtain ⟨text, htext, hx⟩ := Outcome.bind_eq_ok.mp hx
    cases hx
    have hvalue : v.value s = text := by
      unfold value
      rw [htext]
      rfl
    rw [List.filterMap_cons, List.filterMap_cons, hvalue, ih]
    cases text <;> rfl

/-- Every text of a card is filled as if all its slots were filled at once. -/
theorem fill_args (h : v.args = .ok args) {ps : List Piece} (hps : Fillable v.value ps) :
    fill args (written ps) = written (ps.map (Piece.filled v.value)) := by
  rw [args_eq h, fill_written hps]

end Variables

end MomentInsights
