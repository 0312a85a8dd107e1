-- Strings in text that has no halves of surrogate pairs itself. Halves can stand in such a
-- string by their escapes alone, and of two escapes in a row the reader joins what makes a
-- pair. So in what is read there is no pair left to join.
import Mathlib.Data.List.Chain
import MomentInsights.Proofs.JsonText

namespace MomentInsights

/-! ## Halves that make no pair -/

namespace Point

variable {ps : List Point} {p : Point}

/-- The two are no high half with a low half behind it. -/
def Unpaired (p q : Point) : Prop := p.high? = none ∨ q.low? = none

theorem joined_of_unpaired (h : ps.IsChain Unpaired) : joined ps = ps := by
  induction ps using joined.induct with
  | case1 i j ps ih =>
    rcases List.isChain_cons_cons.mp h with ⟨hfirst | hfirst, -⟩
    · cases hfirst
    · cases hfirst
  | case2 p ps hpair ih => rw [joined.eq_2 p ps hpair, ih h.of_cons]
  | case3 => rfl

/-- One more code point after those of `done`, which has the last one first. -/
theorem unpaired_snoc {done : List Point} (h : done.reverse.IsChain Unpaired)
    (hp : ∀ q ∈ done.head?, Unpaired q p) : (p :: done).reverse.IsChain Unpaired := by
  rw [List.reverse_cons, List.isChain_append]
  refine ⟨h, List.isChain_singleton p, ?_⟩
  rw [List.getLast?_reverse]
  intro q hq r hr
  cases hr
  exact hp q hq

end Point

namespace Json

/-- In none of the strings of the value is there a pair to join. -/
inductive Joined : Json → Prop
  | null : Joined .null
  | bool (b : Bool) : Joined (.bool b)
  | num (n : Number) : Joined (.num n)
  | str (s : String) : Joined (.str s)
  | wide {w : WideText} (h : w.joined = w) : Joined (.wide w)
  | arr {xs : List Json} (h : ∀ x ∈ xs, Joined x) : Joined (.arr xs)
  | obj {ms : List (String × Json)} (h : ∀ m ∈ ms, Joined m.2) : Joined (.obj ms)

theorem joined_text {w : WideText} (h : w.joined = w) : Joined (text w) := by
  unfold text
  split
  · exact .str _
  · exact .wide h

theorem Joined.wideText {j : Json} {w : WideText} (h : Joined j) (hw : j.wideText? = some w) :
    w.joined = w := by
  cases h with
  | str s =>
    cases hw
    exact WideText.joined_ofString s
  | wide h =>
    cases hw
    exact h
  | _ => cases hw

theorem Joined.member {j v : Json} {name : String} (h : Joined j) (hv : j.member? name = some v) :
    Joined v := by
  cases h with
  | obj h =>
    obtain ⟨m, hm, rfl⟩ := Option.map_eq_some_iff.mp hv
    exact h m (List.mem_reverse.mp (List.mem_of_find?_eq_some hm))
  | _ => cases hv

namespace Reader

variable {ps rest : List Point}

/-- The text has no halves of surrogate pairs. -/
def Plain (ps : List Point) : Prop := ∀ p ∈ ps, p.isHalf = false

theorem Plain.subset (h : Plain ps) (hsub : rest ⊆ ps) : Plain rest := fun p hp => h p (hsub hp)

/-- A low half is read where its escape is, and a high one where no escape of a low half
follows. -/
theorem escapedPoint?_halves {p : Point} {taken : Nat} (h : escapedPoint? ps = some (p, taken)) :
    (p.low? = lowHalf? (.char '\\' :: .char 'u' :: ps) ∨ p.low? = none) ∧
      (p.high? = none ∨ lowHalf? (ps.drop taken) = none) := by
  unfold escapedPoint? at h
  simp only [Option.bind_eq_bind, Option.bind_eq_some_iff] at h
  obtain ⟨n, hunit, h⟩ := h
  have hlow : lowHalf? (.char '\\' :: .char 'u' :: ps) = (Point.ofNumber n).low? := by
    simp [lowHalf?, hunit]
  rw [hlow]
  cases hp : Point.ofNumber n with
  | high i =>
    rw [hp] at h
    dsimp only at h
    cases hnext : lowHalf? (ps.drop 4) with
    | some j =>
      rw [hnext] at h
      cases h
      exact ⟨Or.inr rfl, Or.inl rfl⟩
    | none =>
      rw [hnext] at h
      cases h
      exact ⟨Or.inr rfl, Or.inr hnext⟩
  | char c =>
    rw [hp] at h
    cases h
    exact ⟨Or.inr rfl, Or.inl rfl⟩
  | low j =>
    rw [hp] at h
    cases h
    exact ⟨Or.inl rfl, Or.inl rfl⟩

theorem low?_of_not_half {p : Point} (h : p.isHalf = false) : p.low? = none ∧ p.high? = none := by
  cases p with
  | char c => exact ⟨rfl, rfl⟩
  | high i => cases h
  | low j => cases h

/-- A string that is read from such a text has no pair to join. The last code point so far
is a high half only where no escape of a low half follows. -/
theorem joined_of_stringRest {opening : Nat} {done : List Point} {w : WideText} (hplain : Plain ps)
    (hdone : done.reverse.IsChain Point.Unpaired)
    (hlast : ∀ q ∈ done.head?, q.high? = none ∨ lowHalf? ps = none)
    (h : stringRest opening done ps = .ok (w, rest)) : w.joined = w ∧ Plain rest := by
  fun_induction stringRest opening done ps with
  | case1 => cases h
  | case2 done r =>
    cases h
    refine ⟨?_, hplain.subset (List.subset_cons_self _ _)⟩
    unfold WideText.joined
    rw [Point.joined_of_unpaired hdone]
  | case3 => cases h
  | case4 done r x taken hx _ ih =>
    obtain ⟨hlow, hhigh⟩ := escapedPoint?_halves hx
    have hsnoc : (x :: done).reverse.IsChain Point.Unpaired := by
      refine Point.unpaired_snoc hdone fun q hq => ?_
      rcases hlast q hq with hq | hnone
      · exact Or.inl hq
      · rw [hnone, or_self] at hlow
        exact Or.inr hlow
    have hrest : Plain (r.drop taken) := fun p hp =>
      hplain p (List.mem_cons_of_mem _ (List.mem_cons_of_mem _ (List.mem_of_mem_drop hp)))
    exact ih hrest hsnoc (by rintro q ⟨⟩; exact hhigh) h
  | case5 => cases h
  | case6 done e r _ c hc _ ih =>
    have hrest : Plain r := fun p hp =>
      hplain p (List.mem_cons_of_mem _ (List.mem_cons_of_mem _ hp))
    exact ih hrest (Point.unpaired_snoc hdone fun _ _ => Or.inr rfl)
      (by rintro q ⟨⟩; exact Or.inl rfl) h
  | case7 => cases h
  | case8 => cases h
  | case9 done p r _ _ _ ih =>
    obtain ⟨hlow, hhigh⟩ := low?_of_not_half (hplain p List.mem_cons_self)
    exact ih (hplain.subset (List.subset_cons_self _ _))
      (Point.unpaired_snoc hdone fun _ _ => Or.inr hlow) (by rintro q ⟨⟩; exact Or.inl hhigh) h

/-! ## Values -/

/-- What is read has no pair to join, and neither halves nor a stop come behind it. -/
def ReadsJoined (r : Except Stop (Json × List Point)) : Prop :=
  ∀ j rest, r = .ok (j, rest) → Joined j ∧ Plain rest

theorem Plain.skip (h : Plain ps) : Plain (skip ps) :=
  h.subset (List.dropWhile_sublist _).subset

theorem joined_object {done : List (WideText × Json)} (h : ∀ m ∈ done, Joined m.2) :
    Joined (object done) := by
  refine .obj fun m hm => ?_
  obtain ⟨n, hn, rfl⟩ := List.mem_map.mp hm
  exact h n (Order.mem_of_mem_eraseDupsBy (List.mem_reverse.mp hn))

theorem word?_joined {j : Json} (hps : Plain ps) (h : word? ps = some (j, rest)) :
    Joined j ∧ Plain rest := by
  obtain ⟨⟨word, v⟩, hword, hfound⟩ := List.exists_of_findSome?_eq_some h
  have hplain : ∀ w ∈ words, Joined w.2 := by
    simp only [words, List.forall_mem_cons, List.not_mem_nil]
    exact ⟨.null, .bool _, .bool _, .num _, .num _, .num _, fun _ h => (by cases h)⟩
  dsimp only at hfound
  split at hfound
  · cases hfound
    exact ⟨hplain _ hword, fun p hp => hps p (List.mem_of_mem_drop hp)⟩
  · cases hfound

section Steps

variable {fuel depth : Nat}

/-- What is read from the rest of an object or an array, wherever it starts. -/
structure RestsJoined (fuel : Nat) : Prop where
  members : ∀ depth done ps, Plain ps → (∀ m ∈ done, Joined m.2) →
    ReadsJoined (members fuel depth done ps)
  items : ∀ depth done ps, Plain ps → (∀ x ∈ done, Joined x) →
    ReadsJoined (items fuel depth done ps)

theorem value_joined (ih : RestsJoined fuel) (hps : Plain ps) :
    ReadsJoined (value (fuel + 1) depth ps) := by
  intro j rest h
  cases ps with
  | nil => cases h
  | cons p r =>
    have hr : Plain r := hps.subset (List.subset_cons_self _ _)
    have hskip {q : Point} {left : List Point} (h : skip r = q :: left) : Plain left :=
      hr.skip.subset (h ▸ List.subset_cons_self _ _)
    rw [value.eq_def] at h
    dsimp only at h
    split at h
    · obtain ⟨⟨w, left⟩, hstring, h⟩ := Outcome.bind_eq_ok.mp h
      cases h
      obtain ⟨hw, hleft⟩ := joined_of_stringRest hr List.isChain_nil (by rintro q ⟨⟩) hstring
      exact ⟨joined_text hw, hleft⟩
    split at h
    · split at h
      · cases h
      · split at h
        · rename_i hclosed
          cases h
          exact ⟨.obj (by rintro m ⟨⟩), hskip hclosed⟩
        · exact ih.members _ _ _ hr.skip (by rintro m ⟨⟩) _ _ h
    split at h
    · split at h
      · cases h
      · split at h
        · rename_i hclosed
          cases h
          exact ⟨.arr (by rintro x ⟨⟩), hskip hclosed⟩
        · exact ih.items _ _ _ hr.skip (by rintro m ⟨⟩) _ _ h
    split at h
    · rename_i found hfound
      cases h
      exact word?_joined hps hfound
    · obtain ⟨⟨n, left⟩, -, h⟩ := Outcome.bind_eq_ok.mp h
      cases h
      exact ⟨.num n, fun q hq => hps q (List.mem_of_mem_drop hq)⟩

variable (hvalue : ∀ depth ps, Plain ps → ReadsJoined (value fuel depth ps))
  (ih : RestsJoined fuel)

include hvalue ih

theorem members_joined {done : List (WideText × Json)} (hps : Plain ps)
    (hdone : ∀ m ∈ done, Joined m.2) : ReadsJoined (members (fuel + 1) depth done ps) := by
  intro j rest h
  rw [members.eq_def] at h
  dsimp only at h
  split at h
  · rename_i r
    obtain ⟨⟨name, left⟩, hname, h⟩ := Outcome.bind_eq_ok.mp h
    have hleft := (joined_of_stringRest (hps.subset (List.subset_cons_self _ _)) List.isChain_nil
      (by rintro q ⟨⟩) hname).2
    dsimp only at h
    split at h
    · rename_i r' hcolon
      obtain ⟨⟨v, left'⟩, hv, h⟩ := Outcome.bind_eq_ok.mp h
      have hr' : Plain r' := hleft.skip.subset (hcolon ▸ List.subset_cons_self _ _)
      obtain ⟨hv, hleft'⟩ := hvalue _ _ hr'.skip _ _ hv
      have hdone' : ∀ m ∈ (name, v) :: done, Joined m.2 :=
        List.forall_mem_cons.mpr ⟨hv, hdone⟩
      dsimp only at h
      split at h
      · rename_i hclosed
        cases h
        exact ⟨joined_object hdone', hleft'.skip.subset (hclosed ▸ List.subset_cons_self _ _)⟩
      · rename_i r'' hcomma
        have hr'' : Plain r'' := hleft'.skip.subset (hcomma ▸ List.subset_cons_self _ _)
        exact ih.members _ _ _ hr''.skip hdone' _ _ h
      · cases h
    · cases h
  · cases h

theorem items_joined {done : List Json} (hps : Plain ps) (hdone : ∀ x ∈ done, Joined x) :
    ReadsJoined (items (fuel + 1) depth done ps) := by
  intro j rest h
  rw [items.eq_def] at h
  dsimp only at h
  obtain ⟨⟨v, left⟩, hv, h⟩ := Outcome.bind_eq_ok.mp h
  obtain ⟨hv, hleft⟩ := hvalue _ _ hps _ _ hv
  have hdone' : ∀ x ∈ v :: done, Joined x := List.forall_mem_cons.mpr ⟨hv, hdone⟩
  dsimp only at h
  split at h
  · rename_i hclosed
    cases h
    exact ⟨.arr fun x hx => hdone' x (List.mem_reverse.mp hx),
      hleft.skip.subset (hclosed ▸ List.subset_cons_self _ _)⟩
  · rename_i r hcomma
    have hr : Plain r := hleft.skip.subset (hcomma ▸ List.subset_cons_self _ _)
    exact ih.items _ _ _ hr.skip hdone' _ _ h
  · cases h

end Steps

theorem readsJoined (fuel : Nat) :
    (∀ depth ps, Plain ps → ReadsJoined (value fuel depth ps)) ∧ RestsJoined fuel := by
  induction fuel with
  | zero =>
    refine ⟨fun _ _ _ _ _ h => ?_, fun _ _ _ _ _ _ _ h => ?_, fun _ _ _ _ _ _ _ h => ?_⟩
    · rw [value.eq_def] at h
      cases h
    · rw [members.eq_def] at h
      cases h
    · rw [items.eq_def] at h
      cases h
  | succ fuel ih =>
    obtain ⟨hvalue, hrests⟩ := ih
    exact ⟨fun _ _ hps => value_joined hrests hps,
      fun _ _ _ hps hdone => members_joined hvalue hrests hps hdone,
      fun _ _ _ hps hdone => items_joined hvalue hrests hps hdone⟩

end Reader

/-- In no string of a value that a text without halves writes is there a pair to join. -/
theorem joined_of_read {depth : Nat} {s : String} {j : Json} (h : read depth s = .ok j) :
    Joined j := by
  have hplain : Reader.Plain (WideText.ofString s).points := by
    intro p hp
    obtain ⟨c, -, rfl⟩ := List.mem_map.mp hp
    rfl
  unfold read at h
  split at h
  · rename_i j' hdocument
    cases h
    unfold Reader.document at hdocument
    obtain ⟨⟨v, left⟩, hv, hdocument⟩ := Outcome.bind_eq_ok.mp hdocument
    dsimp only at hdocument
    split at hdocument
    · cases hdocument
      exact ((Reader.readsJoined _).1 _ _ hplain.skip _ _ hv).1
    · cases hdocument
  · cases h
  · cases h
  · cases h

end Json

end MomentInsights
