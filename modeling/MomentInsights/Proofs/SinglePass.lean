-- The texts of a card against one pass over their templates. The slots are filled in turn,
-- so a value that holds the placeholder of a later slot is filled once more. A text comes
-- out as one pass writes it with the values as they stand after all later turns.
import MomentInsights.Proofs.Evaluation
import MomentInsights.Proofs.FilledTexts

namespace MomentInsights

/-! ## One pass -/

namespace Text

/-- Puts its value for each name in braces, from left to right. What was put in is not
looked at again, and a name without a value stays as it is. -/
def onePass (args : List (String × String)) : List Char → List Char
  | [] => []
  | c :: r =>
    match args.find? fun arg => (braced arg.1.toList).isPrefixOf (c :: r) with
    | some arg => arg.2.toList ++ onePass args (r.drop (arg.1.toList.length + 1))
    | none => c :: onePass args r
termination_by cs => cs.length
decreasing_by
  · simp only [List.length_drop, List.length_cons]; omega
  · simp

end Text

/-- The text with the placeholders of `args` filled in one pass. -/
def fillOnce (args : List (String × String)) (text : String) : String :=
  String.ofList (Text.onePass args text.toList)

/-- The values as they stand after the turns of all later names. -/
def settled : List (String × String) → List (String × String)
  | [] => []
  | arg :: later => (arg.1, fill later arg.2) :: settled later

/-- All names are names of slots. -/
def OfSlots (args : List (String × String)) : Prop := ∀ arg ∈ args, ∃ s : Slot, s.name = arg.1

/-- No placeholder starts another one. -/
theorem Slot.eq_of_prefix {s s' : Slot} {rest : List Char}
    (h : Text.braced s.name.toList <+: Text.braced s'.name.toList ++ rest) : s = s' := by
  have hnames : s.name.toList ++ ['}'] <+: s'.name.toList ++ ['}'] ++ rest :=
    (List.cons_prefix_cons.mp h).2
  rw [List.append_assoc] at hnames
  have hequal := Text.eq_of_closed s.name_plain.2 s'.name_plain.2 hnames
  exact name_injective (String.toList_injective hequal)

section OnePass

variable {args : List (String × String)}

theorem OfSlots.tail {arg : String × String} (h : OfSlots (arg :: args)) : OfSlots args :=
  fun a ha => h a (List.mem_cons_of_mem _ ha)

theorem OfSlots.settled (h : OfSlots args) : OfSlots (settled args) := by
  induction args with
  | nil => exact h
  | cons arg args ih =>
    intro a ha
    rcases List.mem_cons.mp ha with rfl | ha
    · exact h arg List.mem_cons_self
    · exact ih h.tail a ha

namespace Text

theorem onePass_append {cs : List Char} (h : '{' ∉ cs) (rest : List Char) :
    onePass args (cs ++ rest) = cs ++ onePass args rest := by
  induction cs with
  | nil => rfl
  | cons c cs ih =>
    have hc : '{' ≠ c := List.ne_of_not_mem_cons h
    have hnone : (args.find? fun arg => (braced arg.1.toList).isPrefixOf (c :: (cs ++ rest))) =
        none := by
      simp [List.find?_eq_none, braced, hc]
    rw [List.cons_append, onePass, hnone]
    exact congrArg (c :: ·) (ih (List.not_mem_of_not_mem_cons h))

/-- At a placeholder only its own name is found. -/
theorem find_placeholder (h : OfSlots args) (s : Slot) (rest : List Char) :
    (args.find? fun arg => (braced arg.1.toList).isPrefixOf (s.placeholder.toList ++ rest)) =
      (args.lookup s.name).map fun x => (s.name, x) := by
  induction args with
  | nil => rfl
  | cons arg args ih =>
    obtain ⟨s', hs'⟩ := h arg List.mem_cons_self
    obtain ⟨name, x⟩ := arg
    dsimp only at hs'
    subst hs'
    have hrest := ih h.tail
    rw [s.placeholder_toList] at hrest ⊢
    by_cases hsame : s' = s
    · subst hsame
      simp
    · have hother : ¬ braced s'.name.toList <+: braced s.name.toList ++ rest :=
        fun hstarts => hsame (Slot.eq_of_prefix hstarts)
      have hne : s.name ≠ s'.name := fun h => hsame (Slot.name_injective h).symm
      rw [List.find?_cons_of_neg (by simpa using hother), hrest, List.lookup_cons,
        beq_false_of_ne hne]

theorem onePass_placeholder (h : OfSlots args) (s : Slot) (rest : List Char) :
    onePass args (s.placeholder.toList ++ rest) =
      ((args.lookup s.name).getD s.placeholder).toList ++ onePass args rest := by
  have hfind := find_placeholder h s rest
  rw [s.placeholder_toList] at hfind ⊢
  change onePass args ('{' :: (s.name.toList ++ ['}'] ++ rest)) = _
  change (args.find? fun arg => (braced arg.1.toList).isPrefixOf
    ('{' :: (s.name.toList ++ ['}'] ++ rest))) = _ at hfind
  rw [onePass, hfind]
  cases args.lookup s.name with
  | some x =>
    have hlength : s.name.toList.length + 1 = (s.name.toList ++ ['}']).length := by simp
    simp only [Option.map_some, Option.getD_some]
    rw [hlength, List.drop_left]
  | none =>
    have hplain : '{' ∉ s.name.toList ++ ['}'] := by simp [s.name_plain.1]
    simp only [Option.map_none, Option.getD_none]
    rw [onePass_append hplain, s.placeholder_toList]
    rfl

end Text

theorem Piece.filled_slot (value : Slot → Option String) (s : Slot) :
    ((slot s).filled value).written = (value s).getD s.placeholder := by
  cases hvalue : value s <;> simp [filled, hvalue, written]

/-- One pass puts the values where the slots are. -/
theorem fillOnce_written (h : OfSlots args) {ps : List Piece}
    (hwords : ∀ w, Piece.say w ∈ ps → Plain w) :
    fillOnce args (written ps) =
      written (ps.map (Piece.filled fun s => args.lookup s.name)) := by
  unfold fillOnce
  rw [← String.toList_inj, String.toList_ofList]
  induction ps with
  | nil => simp [written, Text.onePass]
  | cons p ps ih =>
    have hrest := ih fun w hw => hwords w (List.mem_cons_of_mem _ hw)
    rw [List.map_cons, written_cons, written_cons, ← hrest]
    cases p with
    | say w => exact Text.onePass_append (hwords w List.mem_cons_self) _
    | slot s =>
      rw [Piece.filled_slot, ← Text.onePass_placeholder h]
      rfl

end OnePass

/-! ## One turn after the other -/

namespace Text

section Separator

variable {old : List Char} {c : Char}

/-- An occurrence that starts before a separator ends before it. -/
theorem prefix_separator (h : c ∉ old) (before rest : List Char) :
    old.isPrefixOf (before ++ c :: rest) = old.isPrefixOf before := by
  rw [Bool.eq_iff_iff, List.isPrefixOf_iff_prefix, List.isPrefixOf_iff_prefix]
  constructor
  · intro hold
    by_cases hlength : old.length ≤ before.length
    · exact List.prefix_of_prefix_length_le hold (List.prefix_append _ _) hlength
    · have hbefore : before ++ [c] <+: before ++ c :: rest := by simp
      have hlonger : before ++ [c] <+: old :=
        List.prefix_of_prefix_length_le hbefore hold (by simp; omega)
      exact absurd (hlonger.subset (by simp)) h
  · exact fun hold => hold.trans (List.prefix_append _ _)

/-- What no occurrence holds parts the text for a replacement. -/
theorem replaceAll_separator (h : c ∉ old) (new before rest : List Char) :
    replaceAll old new (before ++ c :: rest) =
      replaceAll old new before ++ c :: replaceAll old new rest := by
  fun_induction replaceAll old new before with
  | case1 =>
    have hnone : ¬ (old ≠ [] ∧ old.isPrefixOf (c :: rest) = true) := by
      rw [← List.nil_append (c :: rest), prefix_separator h]
      simp
    rw [List.nil_append, List.nil_append, replaceAll, if_neg hnone]
  | case2 c' r hfound ih =>
    have hfound' := hfound
    rw [← prefix_separator h, List.cons_append] at hfound'
    have hlength : old.length - 1 ≤ r.length := by
      have hle := (List.isPrefixOf_iff_prefix.mp hfound.2).length_le
      rw [List.length_cons] at hle
      omega
    rw [List.cons_append, replaceAll, if_pos hfound', List.drop_append_of_le_length hlength, ih,
      List.append_assoc]
  | case3 c' r hnone ih =>
    rw [← prefix_separator h, List.cons_append] at hnone
    rw [List.cons_append, replaceAll, if_neg hnone, ih, List.cons_append]

end Separator

end Text

section Turns

variable {args : List (String × String)}

theorem fill_cons (arg : String × String) (args : List (String × String)) (text : String) :
    fill (arg :: args) text =
      fill args (String.ofList
        (Text.replaceAll (Text.braced arg.1.toList) arg.2.toList text.toList)) := by
  unfold fill
  rw [List.foldl_cons, String.toList_ofList]
  simp only [String.toList_append]
  rfl

theorem fill_append {words : String} (h : Plain words) (rest : String) :
    fill args (words ++ rest) = words ++ fill args rest := by
  induction args generalizing rest with
  | nil => simp [fill]
  | cons arg args ih =>
    rw [fill_cons, fill_cons, String.toList_append, Text.replaceAll_append h, String.ofList_append,
      String.ofList_toList, ih]

theorem fill_empty : fill args "" = "" := by
  induction args with
  | nil => rfl
  | cons arg args ih => simpa [fill_cons, Text.replaceAll] using ih

theorem fill_plain {text : String} (h : Plain text) : fill args text = text := by
  have happend : fill args (text ++ "") = text ++ fill args "" := fill_append h ""
  rwa [fill_empty, String.append_empty] at happend

theorem fill_blank (h : OfSlots args) (before rest : String) :
    fill args (before ++ " " ++ rest) = fill args before ++ " " ++ fill args rest := by
  induction args generalizing before rest with
  | nil => simp [fill, String.append_assoc]
  | cons arg args ih =>
    obtain ⟨s, hs⟩ := h arg List.mem_cons_self
    have hblank : ' ' ∉ Text.braced arg.1.toList := by
      rw [← hs]
      cases s <;> decide +kernel
    have hparts : (before ++ " " ++ rest).toList = before.toList ++ ' ' :: rest.toList := by simp
    rw [fill_cons, fill_cons, fill_cons, ← ih h.tail, hparts, Text.replaceAll_separator hblank]
    congr 1
    simp [← String.toList_inj]

/-- A placeholder gets the settled value of its name. -/
theorem fill_placeholder (h : OfSlots args) (s : Slot) :
    fill args s.placeholder = ((settled args).lookup s.name).getD s.placeholder := by
  induction args with
  | nil => simp [fill, settled]
  | cons arg args ih =>
    obtain ⟨s', hs'⟩ := h arg List.mem_cons_self
    rw [fill_cons, ← hs', settled, List.lookup_cons, ← hs']
    by_cases hsame : s' = s
    · subst hsame
      have hput := Text.replaceAll_braced s'.name.toList arg.2.toList []
      rw [List.append_nil] at hput
      rw [s'.placeholder_toList, hput]
      simp [Text.replaceAll]
    · have hne : s'.name.toList ≠ s.name.toList := by
        intro h
        exact hsame (Slot.name_injective (String.toList_injective h))
      have hne' : s.name ≠ s'.name := fun h => hne (by rw [h])
      have hkept := Text.replaceAll_braced_ne hne s'.name_plain.2 s.name_plain.2 s.name_plain.1
        arg.2.toList []
      rw [List.append_nil] at hkept
      rw [s.placeholder_toList, hkept, beq_false_of_ne hne']
      simp [Text.replaceAll, ← s.placeholder_toList, ih h.tail]

/-- The words are plain, and behind a slot stands a blank or nothing. -/
def spaced : List Piece → Bool
  | [] => true
  | .say words :: ps => !words.toList.contains '{' && spaced ps
  | .slot _ :: ps => (written ps).toList.head?.getD ' ' == ' ' && spaced ps

theorem spaced_plain {ps : List Piece} (h : spaced ps = true) {w : String}
    (hw : Piece.say w ∈ ps) : Plain w := by
  induction ps with
  | nil => cases hw
  | cons p ps ih =>
    cases p with
    | say words =>
      obtain ⟨hplain, hrest⟩ := Bool.and_eq_true_iff.mp h
      rcases List.mem_cons.mp hw with hsame | hw
      · cases hsame
        simpa [Plain] using hplain
      · exact ih hrest hw
    | slot s =>
      obtain ⟨-, hrest⟩ := Bool.and_eq_true_iff.mp h
      exact ih hrest ((List.mem_cons.mp hw).resolve_left (by simp))

theorem fill_spaced (h : OfSlots args) {ps : List Piece} (hps : spaced ps = true) :
    fill args (written ps) =
      written (ps.map (Piece.filled fun s => (settled args).lookup s.name)) := by
  induction ps with
  | nil => exact fill_empty
  | cons p ps ih =>
    have hcons (p : Piece) (ps : List Piece) : written (p :: ps) = p.written ++ written ps := by
      rw [← String.toList_inj, written_cons, String.toList_append]
    rw [List.map_cons, hcons, hcons]
    cases p with
    | say words =>
      obtain ⟨-, hrest⟩ := Bool.and_eq_true_iff.mp hps
      rw [← ih hrest]
      exact fill_append (spaced_plain hps List.mem_cons_self) _
    | slot s =>
      obtain ⟨hblank, hrest⟩ := Bool.and_eq_true_iff.mp hps
      rw [← ih hrest, Piece.filled_slot, ← fill_placeholder h]
      change fill args (s.placeholder ++ written ps) = _
      cases hps : (written ps).toList with
      | nil =>
        have hempty : written ps = "" := String.toList_injective (by simpa using hps)
        rw [hempty, String.append_empty, fill_empty, String.append_empty]
      | cons c rest =>
        rw [hps] at hblank
        have hc : c = ' ' := by simpa using hblank
        have htext : written ps = " " ++ String.ofList rest := by
          rw [← String.toList_inj, hps, hc]
          simp
        have hplain : Plain " " := by unfold Plain; decide +kernel
        rw [htext, ← String.append_assoc, fill_blank h, fill_append hplain, String.append_assoc]

end Turns

/-! ## Which values a text shows -/

/-- What people have entered, and not counted. -/
def Slot.entered : Slot → Bool
  | childName | goalName | behaviorName => true
  | count | days | daysRemaining | progress => false

def Piece.entered : Piece → Bool
  | say _ => false
  | slot s => s.entered

section Shown

variable {ps : List Piece}

/-- The placeholders in a text are those of its slots. -/
theorem placeholder_infix_iff (hwords : ∀ w, Piece.say w ∈ ps → Plain w) (s : Slot) :
    s.placeholder.toList <:+: (written ps).toList ↔ Piece.slot s ∈ ps := by
  have hskip {cs : List Char} (hcs : '{' ∉ cs) (rest : List Char)
      (h : Text.braced s.name.toList <:+: cs ++ rest) : Text.braced s.name.toList <:+: rest := by
    induction cs with
    | nil => exact h
    | cons c cs ih =>
      rcases List.infix_cons_iff.mp h with hstarts | hlater
      · obtain ⟨hopen, -⟩ := List.cons_prefix_cons.mp hstarts
        exact absurd hopen (List.ne_of_not_mem_cons hcs)
      · exact ih (List.not_mem_of_not_mem_cons hcs) hlater
  rw [s.placeholder_toList]
  induction ps with
  | nil => simp [written, Text.braced]
  | cons p ps ih =>
    have hrest := ih fun w hw => hwords w (List.mem_cons_of_mem _ hw)
    rw [written_cons, List.mem_cons]
    refine Iff.trans ?_ (or_congr_right hrest)
    constructor
    · intro h
      cases p with
      | say w => exact Or.inr (hskip (hwords w List.mem_cons_self) _ h)
      | slot s' =>
        change _ <:+: s'.placeholder.toList ++ _ at h
        rw [s'.placeholder_toList] at h
        rcases List.infix_cons_iff.mp h with hstarts | hlater
        · exact Or.inl (by rw [Slot.eq_of_prefix hstarts])
        · exact Or.inr (hskip (by simp [s'.name_plain.1]) _ hlater)
    · rintro (rfl | hlater)
      · rw [← s.placeholder_toList]
        exact (List.prefix_append _ _).isInfix
      · exact hlater.trans (List.suffix_append _ _).isInfix

variable {value value' : Slot → Option String}

theorem Piece.filled_congr {p : Piece} (h : ∀ s, p = slot s → value s = value' s) :
    p.filled value = p.filled value' := by
  cases p with
  | say w => rfl
  | slot s => exact congrArg (fun x => (x.map say).getD (slot s)) (h s rfl)

theorem eq_of_getD_eq {x y : Option String} {otherwise : String} (hsome : x.isSome = y.isSome)
    (h : x.getD otherwise = y.getD otherwise) : x = y := by
  cases x with
  | none =>
    cases y with
    | none => rfl
    | some b => cases hsome
  | some a =>
    cases y with
    | none => cases hsome
    | some b => exact congrArg some h

/-- Two fillings of a text that shows one entered name at most are the same only if all the
values that it shows are. -/
theorem written_filled_eq_iff (hone : ps.countP Piece.entered ≤ 1)
    (hcounted : ∀ s : Slot, s.entered = false → value s = value' s)
    (hsome : ∀ s, (value s).isSome = (value' s).isSome) :
    written (ps.map (Piece.filled value)) = written (ps.map (Piece.filled value')) ↔
      ∀ s, Piece.slot s ∈ ps → value s = value' s := by
  have hkept {p : Piece} (hp : p.entered = false) : p.filled value = p.filled value' :=
    Piece.filled_congr fun s hs => hcounted s (by rw [hs] at hp; exact hp)
  constructor
  · intro h
    rw [← String.toList_inj] at h
    induction ps with
    | nil => simp
    | cons p ps ih =>
      rw [List.map_cons, List.map_cons, written_cons, written_cons] at h
      rw [List.countP_cons] at hone
      by_cases hp : p.entered = true
      · have hrest : ∀ p ∈ ps, ¬ p.entered = true := by
          rw [if_pos hp] at hone
          exact List.countP_eq_zero.mp (by omega)
        have hsame : ps.map (Piece.filled value) = ps.map (Piece.filled value') :=
          List.map_congr_left fun p hp => hkept (by simpa using hrest p hp)
        rw [hsame] at h
        have hfirst := String.toList_injective (List.append_cancel_right h)
        intro s hs
        rcases List.mem_cons.mp hs with rfl | hs
        · rw [Piece.filled_slot, Piece.filled_slot] at hfirst
          exact eq_of_getD_eq (hsome s) hfirst
        · exact hcounted s (by simpa [Piece.entered] using hrest _ hs)
      · have hp : p.entered = false := by simpa using hp
        rw [hkept hp] at h
        have hrest := ih (by omega) (List.append_cancel_left h)
        intro s hs
        rcases List.mem_cons.mp hs with rfl | hs
        · exact hcounted s hp
        · exact hrest s hs
  · intro h
    rw [List.map_congr_left]
    exact fun p hp => Piece.filled_congr fun s hs => h s (hs ▸ hp)

end Shown

/-! ## The values of a card -/

section Values

variable {args : List (String × String)} {name : String}

theorem lookup_settled_isSome (args : List (String × String)) (name : String) :
    ((settled args).lookup name).isSome = (args.lookup name).isSome := by
  induction args with
  | nil => rfl
  | cons arg args ih =>
    rw [settled, List.lookup_cons, List.lookup_cons]
    cases name == arg.1
    · exact ih
    · rfl

/-- A plain value takes no turns. -/
theorem lookup_settled (h : ∀ x, args.lookup name = some x → Plain x) :
    (settled args).lookup name = args.lookup name := by
  induction args with
  | nil => rfl
  | cons arg args ih =>
    rw [List.lookup_cons] at h
    rw [settled, List.lookup_cons, List.lookup_cons]
    cases hname : name == arg.1 with
    | true =>
      have hplain : Plain arg.2 := h arg.2 (by rw [hname])
      rw [fill_plain hplain]
    | false =>
      rw [hname] at h
      exact ih h

theorem settled_eq (h : ∀ arg ∈ args, Plain arg.2) : settled args = args := by
  induction args with
  | nil => rfl
  | cons arg args ih =>
    rw [settled, fill_plain (h arg List.mem_cons_self),
      ih fun a ha => h a (List.mem_cons_of_mem _ ha)]

theorem named_ofSlots (value : Slot → Option String) (slots : List Slot) :
    OfSlots (named value slots) := by
  intro arg harg
  obtain ⟨s, -, hs⟩ := List.mem_filterMap.mp harg
  obtain ⟨x, -, rfl⟩ := Option.map_eq_some_iff.mp hs
  exact ⟨s, rfl⟩

theorem lookup_named (value : Slot → Option String) {slots : List Slot} {s : Slot}
    (hs : s ∈ slots) : (named value slots).lookup s.name = value s := by
  cases hvalue : value s with
  | none =>
    rw [List.lookup_eq_none_iff]
    intro arg harg
    obtain ⟨s', -, hs'⟩ := List.mem_filterMap.mp harg
    obtain ⟨x, hx, rfl⟩ := Option.map_eq_some_iff.mp hs'
    rw [bne_iff_ne]
    intro hname
    rw [← Slot.name_injective hname, hvalue] at hx
    cases hx
  | some x =>
    unfold named
    induction slots with
    | nil => cases hs
    | cons s' slots ih =>
      by_cases hsame : s = s'
      · subst hsame
        rw [List.filterMap_cons_some (by rw [hvalue]; rfl), List.lookup_cons, beq_self_eq_true]
      · have hrest := ih ((List.mem_cons.mp hs).resolve_left hsame)
        cases hvalue' : value s' with
        | none => rwa [List.filterMap_cons_none (by rw [hvalue']; rfl)]
        | some x' =>
          rwa [List.filterMap_cons_some (by rw [hvalue']; rfl), List.lookup_cons,
            beq_false_of_ne fun h => hsame (Slot.name_injective h)]

theorem plain_nat (n : Nat) : '{' ∉ n.repr.toList := by
  intro h
  rw [Nat.repr, String.toList_ofList] at h
  have hdigit := Nat.isDigit_of_mem_toDigits (by decide) (by decide) h
  revert hdigit
  decide

theorem plain_int (n : Int) : Plain (toString n) := by
  unfold Plain
  cases n with
  | ofNat n => exact plain_nat n
  | negSucc n => 
    change '{' ∉ ("-" ++ (n + 1).repr).toList
    rw [String.toList_append, List.mem_append]
    rintro (h | h)
    · revert h
      decide +kernel
    · exact plain_nat _ h

namespace Variables

variable {v : Variables}

theorem plain_percentage {p : Number} {text : String} (h : percentage p = .ok text) :
    Plain text := by
  have hpercent (n : Int) : Plain s!"{n}%" := by
    have hsign : '{' ∉ "%".toList := by decide +kernel
    have hdigits : '{' ∉ (toString n).toList := plain_int n
    simpa [Plain] using ⟨hdigits, hsign⟩
  cases p with
  | whole n =>
    cases h
    exact hpercent _
  | real x =>
    change percent (x * Binary64.ofInt 100) = .ok text at h
    unfold percent at h
    split at h
    · cases h
      exact hpercent _
    · cases h

theorem progress_of_value {text : String} (h : v.value .progress = some text) :
    ∃ p, v.progress = some p ∧ percentage p = .ok text := by
  unfold value valueOf at h
  cases hp : v.progress with
  | none =>
    rw [hp] at h
    cases h
  | some p =>
    rw [hp] at h
    change (some <$> percentage p).toOption.join = some text at h
    cases htext : percentage p with
    | error f =>
      rw [htext] at h
      cases h
    | ok text' =>
      rw [htext] at h
      cases h
      exact ⟨p, rfl, htext⟩

/-- What is counted is plain. -/
theorem plain_counted {s : Slot} (hs : s.entered = false) {x : String} (hx : v.value s = some x) :
    Plain x := by
  cases s with
  | childName => cases hs
  | goalName => cases hs
  | behaviorName => cases hs
  | count =>
    cases hx
    exact plain_int _
  | days =>
    cases hx
    exact plain_int _
  | daysRemaining =>
    obtain ⟨n, -, rfl⟩ := Option.map_eq_some_iff.mp hx
    exact plain_int n
  | progress =>
    obtain ⟨p, -, htext⟩ := progress_of_value hx
    exact plain_percentage htext

theorem lookup_args (h : v.args = .ok args) (s : Slot) : args.lookup s.name = v.value s := by
  rw [args_eq h]
  exact lookup_named _ (by cases s <;> decide)

theorem ofSlots_args (h : v.args = .ok args) : OfSlots args := by
  rw [args_eq h]
  exact named_ofSlots _ _

end Variables

end Values

/-! ## The texts of templates and cards -/

/-- How the texts of the templates are made. -/
structure Tidy (ps : List Piece) : Prop where
  spaced : spaced ps = true
  entered : ps.countP Piece.entered ≤ 1

/-- All texts of a template. -/
def Template.texts (t : Template) : List String := t.title :: t.oneLiner :: t.why :: t.steps

/-- All texts of a card that are filled from a template. -/
def Card.texts (c : Card) : List String := c.title :: c.oneLiner :: c.why :: c.steps

theorem written_say (words : String) : written [.say words] = words := by
  simp [written, Piece.written]

theorem Template.texts_tidy {t : Template} (ht : t ∈ all) {text : String} (h : text ∈ t.texts) :
    ∃ ps, Tidy ps ∧ text = written ps := by
  obtain ⟨k, -, rfl⟩ := List.mem_map.mp ht
  have hwords {words : String} (hplain : spaced [.say words] = true) :
      ∃ ps, Tidy ps ∧ words = written ps :=
    ⟨_, ⟨hplain, by simp [Piece.entered]⟩, (written_say words).symm⟩
  have hpieces {ps : List Piece} (hspaced : spaced ps = true)
      (hentered : ps.countP Piece.entered ≤ 1) : ∃ ps', Tidy ps' ∧ written ps = written ps' :=
    ⟨ps, ⟨hspaced, hentered⟩, rfl⟩
  revert text
  cases k
  all_goals
    simp only [texts, ofSignal, List.forall_mem_cons]
    refine ⟨?_, ?_, ?_, ?_, ?_, ?_, by simp⟩
    all_goals first
      | exact hpieces (by decide +kernel) (by decide +kernel)
      | exact hwords (by decide +kernel)

theorem fill_tidy {v : Variables} {args : List (String × String)} (hargs : v.args = .ok args)
    {ps : List Piece} (hps : Tidy ps) :
    fill args (written ps) = fillOnce (settled args) (written ps) ∧
      (fillOnce (settled args) (written ps) = fillOnce args (written ps) ↔
        ∀ slot : Slot, slot.placeholder.toList <:+: (written ps).toList →
          (settled args).lookup slot.name = args.lookup slot.name) := by
  have hslots := Variables.ofSlots_args hargs
  have hwords : ∀ w, Piece.say w ∈ ps → Plain w := fun w => spaced_plain hps.spaced
  have hsettled : fillOnce (settled args) (written ps) =
      written (ps.map (Piece.filled fun s => (settled args).lookup s.name)) :=
    fillOnce_written hslots.settled hwords
  constructor
  · rw [fill_spaced hslots hps.spaced, hsettled]
  · rw [hsettled, fillOnce_written hslots hwords, written_filled_eq_iff hps.entered]
    · exact forall_congr' fun s => imp_congr_left (placeholder_infix_iff hwords s).symm
    · intro s hs
      refine lookup_settled fun x hx => ?_
      rw [Variables.lookup_args hargs] at hx
      exact Variables.plain_counted hs hx
    · exact fun s => lookup_settled_isSome args s.name

theorem settled_args_eq {s : Signal} {child : Child} {args : List (String × String)}
    (hargs : (Variables.ofSignal s child).args = .ok args) (hchild : Plain child.name)
    (hgoal : ∀ name, s.details.goalName = some name → Plain name)
    (hbehavior : ∀ name, s.details.behaviorName = some name → Plain name) :
    settled args = args := by
  refine settled_eq fun arg harg => ?_
  rw [Variables.args_eq hargs] at harg
  obtain ⟨slot, -, hslot⟩ := List.mem_filterMap.mp harg
  obtain ⟨x, hx, rfl⟩ := Option.map_eq_some_iff.mp hslot
  cases slot with
  | childName =>
    cases hx
    exact hchild
  | goalName => exact hgoal x hx
  | behaviorName => exact hbehavior x hx
  | _ => exact Variables.plain_counted rfl hx

theorem Card.texts_eq {s : Signal} {child : Child} {args : List (String × String)}
    (hargs : (Variables.ofSignal s child).args = .ok args) (now : Instant) :
    ∃ c localized, Card.ofSignal s child now = .ok c ∧ c.localized = some localized ∧
      localized.args = args ∧ c.texts = (Template.ofSignal s.kind).texts.map (fill args) := by
  unfold Card.ofSignal Card.build
  rw [hargs, Timestamp.utc_ofInstant]
  exact ⟨_, _, rfl, rfl, rfl, rfl⟩

/-! ## Stalls of a goal, and the values of their cards -/

/-- The goal that is due soon, under another name. -/
def goalNamed (name : String) : Goal := { nearGoal with name }

/-- The values of the card for its stall. -/
def stallArgs (name : String) : List (String × String) :=
  [("childName", "Ada"), ("count", "3"), ("days", "14"), ("goalName", name),
    ("daysRemaining", "5"), ("progress", "20%")]

/-- A stall that is found after the three moments, by what is seen of it. -/
theorem exists_stall (g : Goal) (args : List (String × String))
    (h : (Detect.goalStalled g (Timeline.ofEvents oldMoments twentiethDay)).toOption.map
      (fun s => (s.triggered, s.kind, (Variables.ofSignal s oldChild).args.toOption)) =
        some (true, .goalStalled, some args)) :
    ∃ s, Detect.goalStalled g (Timeline.ofEvents oldMoments twentiethDay) = .ok s ∧
      s.triggered = true ∧ s.kind = .goalStalled ∧
      (Variables.ofSignal s oldChild).args = .ok args := by
  obtain ⟨s, hs, hseen⟩ := Outcome.exists_ok_of_map h
  obtain ⟨htriggered, hrest⟩ := Prod.mk.inj hseen
  obtain ⟨hkind, hargs⟩ := Prod.mk.inj hrest
  obtain ⟨args', hok, hsame⟩ := Outcome.exists_ok_of_map (f := id) (by simpa using hargs)
  exact ⟨s, hs, htriggered, hkind, hok.trans (congrArg Except.ok hsame)⟩

/-! ## Every text -/

/-- Every text of a template comes out as one pass writes it with the settled values, in
which a value has had the turns of the later names. That is what one pass writes with the
values of the card just when no value that the text shows is changed by those turns, as in
all texts when no name holds an opening brace. -/
theorem texts_once_settled (s : Signal) (child : Child) :
    (∀ t, Detects t s → ∃ args, (Variables.ofSignal s child).args = .ok args) ∧
      ∀ args, (Variables.ofSignal s child).args = .ok args →
        (∀ t ∈ Template.all, ∀ text ∈ t.texts,
          (Variables.ofSignal s child).interpolate text = .ok (fillOnce (settled args) text) ∧
          (fillOnce (settled args) text = fillOnce args text ↔
            ∀ slot : Slot, slot.placeholder.toList <:+: text.toList →
              (settled args).lookup slot.name = args.lookup slot.name)) ∧
        (Plain child.name → (∀ name, s.details.goalName = some name → Plain name) →
          (∀ name, s.details.behaviorName = some name → Plain name) → settled args = args) ∧
        ∀ now, ∃ c localized, Card.ofSignal s child now = .ok c ∧ c.localized = some localized ∧
          localized.args = args ∧
          c.texts = (Template.ofSignal s.kind).texts.map (fillOnce (settled args)) := by
  refine ⟨fun t h => Variables.args_total h.readable, ?_⟩
  intro args hargs
  refine ⟨?_, settled_args_eq hargs, ?_⟩
  · intro t ht text htext
    obtain ⟨ps, hps, rfl⟩ := Template.texts_tidy ht htext
    obtain ⟨hfill, hiff⟩ := fill_tidy hargs hps
    refine ⟨?_, hiff⟩
    unfold Variables.interpolate
    rw [hargs, ← hfill]
    rfl
  · intro now
    obtain ⟨c, localized, hc, hlocalized, hcard, htexts⟩ := Card.texts_eq hargs now
    refine ⟨c, localized, hc, hlocalized, hcard, htexts.trans (List.map_congr_left ?_)⟩
    intro text htext
    have hall : Template.ofSignal s.kind ∈ Template.all :=
      List.mem_map_of_mem (by cases s.kind <;> decide)
    obtain ⟨ps, hps, rfl⟩ := Template.texts_tidy hall htext
    exact (fill_tidy hargs hps).1

/-- The texts of a goal whose name is plain. -/
theorem texts_once_settled_bike :
    ∃ s args c, Detects (Timeline.ofEvents oldMoments twentiethDay) s ∧
      (Variables.ofSignal s oldChild).args = .ok args ∧ settled args = args ∧
      Card.ofSignal s oldChild twentiethDay = .ok c ∧
      c.texts = (Template.ofSignal s.kind).texts.map (fillOnce args) ∧
      (Variables.ofSignal s oldChild).interpolate (Template.ofSignal .goalStalled).title =
        .ok (fillOnce args (Template.ofSignal .goalStalled).title) := by
  obtain ⟨s, hs, -, -, hknown⟩ :=
    exists_stall (goalNamed "Bike") (stallArgs "Bike") (by decide +kernel)
  have hdetects := Detects.goalStalled hs
  obtain ⟨htotal, htexts⟩ := texts_once_settled s oldChild
  obtain ⟨args, hargs⟩ := htotal _ hdetects
  obtain ⟨htemplates, hplain, hcards⟩ := htexts args hargs
  have hgoal : some "Bike" = s.details.goalName := Variables.lookup_args hknown .goalName
  have hbehavior : none = s.details.behaviorName := Variables.lookup_args hknown .behaviorName
  have hsettled : settled args = args := by
    refine hplain (by unfold Plain; decide +kernel) ?_ ?_
    · intro name hname
      rw [← hgoal] at hname
      cases hname
      unfold Plain
      decide +kernel
    · intro name hname
      rw [← hbehavior] at hname
      cases hname
  obtain ⟨c, localized, hc, -, -, hcard⟩ := hcards twentiethDay
  obtain ⟨htitle, -⟩ := htemplates (Template.ofSignal .goalStalled) (by decide +kernel)
    (Template.ofSignal .goalStalled).title List.mem_cons_self
  rw [hsettled] at hcard htitle
  exact ⟨s, args, c, hdetects, hargs, hsettled, hc, hcard, htitle⟩

/-- A goal with the name of a later value in braces. Its name is filled once more. -/
theorem braced_name_filled :
    ¬ ∀ (t : Timeline) (s : Signal) (child : Child) (args : List (String × String)),
      Detects t s → (Variables.ofSignal s child).args = .ok args →
        ∀ text ∈ (Template.ofSignal s.kind).texts,
          (Variables.ofSignal s child).interpolate text = .ok (fillOnce args text) := by
  intro honce
  obtain ⟨s, hs, -, hkind, hargs⟩ := exists_stall (goalNamed "\x7bprogress\x7d")
    (stallArgs "\x7bprogress\x7d") (by decide +kernel)
  have htitle := honce _ s oldChild _ (.goalStalled hs) hargs (Template.ofSignal .goalStalled).title
    (by rw [hkind]; exact List.mem_cons_self)
  unfold Variables.interpolate at htitle
  rw [hargs] at htitle
  have hfilled := Except.ok.inj htitle
  revert hfilled
  decide +kernel

end MomentInsights
