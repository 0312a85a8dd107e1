-- Computations that may fail: how a result of the whole comes from the results
-- of its parts.
import Mathlib.Data.List.Forall2
import Mathlib.Data.Multiset.Count

namespace MomentInsights.Outcome

variable {ε α β : Type}

@[simp] theorem ok_bind (a : α) (f : α → Except ε β) : (Except.ok a >>= f) = f a := rfl

@[simp] theorem error_bind (e : ε) (f : α → Except ε β) :
    ((Except.error e : Except ε α) >>= f) = .error e := rfl

@[simp] theorem pure_eq_ok (a : α) : (pure a : Except ε α) = .ok a := rfl

theorem bind_eq_ok {x : Except ε α} {f : α → Except ε β} {b : β} :
    (x >>= f) = .ok b ↔ ∃ a, x = .ok a ∧ f a = .ok b := by
  cases x <;> simp

theorem bind_eq_error {x : Except ε α} {f : α → Except ε β} {e : ε} :
    (x >>= f) = .error e ↔ x = .error e ∨ ∃ a, x = .ok a ∧ f a = .error e := by
  cases x <;> simp

/-- A computed result, by what is seen of it. -/
theorem exists_ok_of_map {x : Except ε α} {f : α → β} {b : β} (h : x.toOption.map f = some b) :
    ∃ a, x = .ok a ∧ f a = b := by
  obtain ⟨a, hok, ha⟩ := Option.map_eq_some_iff.mp h
  cases x with
  | error e => cases hok
  | ok a' =>
    cases hok
    exact ⟨a, rfl, ha⟩

/-- A list is worked through when each of its elements is. -/
theorem mapM_eq_ok {f : α → Except ε β} {xs : List α} {ys : List β} :
    xs.mapM f = .ok ys ↔ List.Forall₂ (fun x y => f x = .ok y) xs ys := by
  induction xs generalizing ys with
  | nil => simp [eq_comm]
  | cons x xs ih =>
    simp only [List.mapM_cons, bind_eq_ok, pure_eq_ok, Except.ok.injEq, List.forall₂_cons_left_iff, ih]
    constructor
    · rintro ⟨y, hy, zs, hzs, rfl⟩
      exact ⟨y, zs, hy, hzs, rfl⟩
    · rintro ⟨y, zs, hy, hzs, rfl⟩
      exact ⟨y, hy, zs, hzs, rfl⟩

theorem mapM_total {f : α → Except ε β} {xs : List α} (h : ∀ x ∈ xs, ∃ y, f x = .ok y) :
    ∃ ys, xs.mapM f = .ok ys := by
  induction xs with
  | nil => exact ⟨[], rfl⟩
  | cons x xs ih =>
    obtain ⟨y, hy⟩ := h x List.mem_cons_self
    obtain ⟨ys, hys⟩ := ih fun x' hx' => h x' (List.mem_cons_of_mem x hx')
    exact ⟨y :: ys, by rw [List.mapM_cons, hy, hys]; rfl⟩

/-- Each result comes from an element. -/
theorem exists_of_mem_mapM {f : α → Except ε β} {xs : List α} {ys : List β}
    (h : xs.mapM f = .ok ys) {y : β} (hy : y ∈ ys) : ∃ x ∈ xs, f x = .ok y := by
  rw [mapM_eq_ok] at h
  induction h with
  | nil => cases hy
  | @cons x z xs ys hxz _ ih =>
    rcases List.mem_cons.mp hy with rfl | hy
    · exact ⟨x, List.mem_cons_self, hxz⟩
    · obtain ⟨x', hx', hfx'⟩ := ih hy
      exact ⟨x', List.mem_cons_of_mem x hx', hfx'⟩

theorem bind_total {x : Except ε α} {f : α → Except ε β} (hx : ∃ a, x = .ok a)
    (hf : ∀ a, x = .ok a → ∃ b, f a = .ok b) : ∃ b, (x >>= f) = .ok b := by
  obtain ⟨a, rfl⟩ := hx
  exact hf a rfl

theorem unless_total {c : Prop} [Decidable c] {a : α} {x : Except ε α}
    (hx : ¬ c → ∃ b, x = .ok b) : ∃ b, (if c then pure a else x) = .ok b := by
  split
  · exact ⟨a, rfl⟩
  · rename_i hc
    exact hx hc

/-! ## A single failure -/

/-- Whatever fails fails in this way. -/
def FailsOnly (e : ε) (x : Except ε α) : Prop := ∀ e', x = .error e' → e' = e

theorem failsOnly_ok (e : ε) (a : α) : FailsOnly e (.ok a : Except ε α) := by
  intro e' h
  cases h

theorem failsOnly_bind {e : ε} {x : Except ε α} {f : α → Except ε β} (hx : FailsOnly e x)
    (hf : ∀ a, x = .ok a → FailsOnly e (f a)) : FailsOnly e (x >>= f) := by
  intro e' h
  rcases bind_eq_error.mp h with h | ⟨a, ha, h⟩
  · exact hx e' h
  · exact hf a ha e' h

theorem failsOnly_unless {e : ε} {c : Prop} [Decidable c] {a : α} {x : Except ε α}
    (hx : ¬ c → FailsOnly e x) : FailsOnly e (if c then pure a else x) := by
  split
  · exact failsOnly_ok e a
  · rename_i hc
    exact hx hc

/-- Where all failures are the same one, an element that fails makes the list fail so. -/
theorem mapM_eq_error {f : α → Except ε β} {e : ε} {xs : List α}
    (hsame : ∀ x ∈ xs, FailsOnly e (f x)) (hfails : ∃ x ∈ xs, ∃ e', f x = .error e') :
    xs.mapM f = .error e := by
  induction xs with
  | nil =>
    obtain ⟨x, hx, -⟩ := hfails
    cases hx
  | cons x xs ih =>
    rw [List.mapM_cons]
    cases hfx : f x with
    | error e' => rw [hsame x List.mem_cons_self e' hfx, error_bind]
    | ok y =>
      have hrest : ∃ x' ∈ xs, ∃ e', f x' = .error e' := by
        obtain ⟨x', hx', e', he'⟩ := hfails
        rcases List.mem_cons.mp hx' with rfl | hx'
        · rw [hfx] at he'
          cases he'
        · exact ⟨x', hx', e', he'⟩
      rw [ok_bind, ih (fun x' hx' => hsame x' (List.mem_cons_of_mem x hx')) hrest, error_bind]

/-- A change of the elements that changes their results likewise. -/
theorem mapM_map {α' β' : Type} {f : α → Except ε β} {g : α' → Except ε β'} {m : α → α'}
    {n : β → β'} (h : ∀ x, g (m x) = (f x).map n) (xs : List α) :
    (xs.map m).mapM g = (xs.mapM f).map (List.map n) := by
  induction xs with
  | nil => rfl
  | cons x xs ih =>
    rw [List.map_cons, List.mapM_cons, List.mapM_cons, h, ih]
    cases f x with
    | error e => rfl
    | ok y => cases xs.mapM f <;> rfl

/-- Two chains agree as far as `m` tells, if their first steps agree as far as `n`
tells, and no more of the first step matters to the rest. -/
theorem map_bind_congr_of_ok {γ δ : Type} {x y : Except ε α} {f g : α → Except ε β} {n : α → γ}
    {m : β → δ} (hxy : x.map n = y.map n)
    (hfg : ∀ a b, x = .ok a → y = .ok b → n a = n b → (f a).map m = (g b).map m) :
    (x >>= f).map m = (y >>= g).map m := by
  cases x with
  | error e =>
    cases y with
    | error e' => cases hxy; rfl
    | ok b => cases hxy
  | ok a =>
    cases y with
    | error e' => cases hxy
    | ok b => exact hfg a b rfl rfl (Except.ok.inj hxy)

theorem map_bind_congr {γ δ : Type} {x y : Except ε α} {f g : α → Except ε β} {n : α → γ}
    {m : β → δ} (hxy : x.map n = y.map n)
    (hfg : ∀ a b, n a = n b → (f a).map m = (g b).map m) : (x >>= f).map m = (y >>= g).map m :=
  map_bind_congr_of_ok hxy fun a b _ _ => hfg a b

theorem map_mapM_congr {γ : Type} {f g : α → Except ε β} {n : β → γ}
    (h : ∀ x, (f x).map n = (g x).map n) (xs : List α) :
    (xs.mapM f).map (List.map n) = (xs.mapM g).map (List.map n) := by
  induction xs with
  | nil => rfl
  | cons x xs ih =>
    rw [List.mapM_cons, List.mapM_cons]
    apply map_bind_congr (h x)
    intro a b hab
    apply map_bind_congr ih
    intro as bs habs
    exact congrArg Except.ok (congrArg₂ List.cons hab habs)

/-- What one computation gives each element, another gives too, in a form that is
related to it; so it is with the whole list. -/
theorem mapM_transfer {γ : Type} {R : β → γ → Prop} {f : α → Except ε β} {g : α → Except ε γ}
    {xs : List α} {ys : List β} (hys : xs.mapM f = .ok ys)
    (h : ∀ x y, f x = .ok y → ∃ z, g x = .ok z ∧ R y z) :
    ∃ zs, xs.mapM g = .ok zs ∧ List.Forall₂ R ys zs := by
  rw [mapM_eq_ok] at hys
  induction hys with
  | nil => exact ⟨[], rfl, .nil⟩
  | @cons x y xs ys hxy _ ih =>
    obtain ⟨z, hz, hyz⟩ := h x y hxy
    obtain ⟨zs, hzs, hall⟩ := ih
    exact ⟨z :: zs, by rw [List.mapM_cons, hz, hzs]; rfl, .cons hyz hall⟩

/-- Elements that are told apart as their results are may be left out with them. -/
theorem mapM_filter {f : α → Except ε β} {keep : α → Bool} {keep' : β → Bool} {xs : List α}
    {ys : List β} (hys : xs.mapM f = .ok ys)
    (h : ∀ x ∈ xs, ∀ y, f x = .ok y → keep' y = keep x) :
    (xs.filter keep).mapM f = .ok (ys.filter keep') := by
  rw [mapM_eq_ok] at hys
  induction hys with
  | nil => rfl
  | @cons x y xs ys hxy _ ih =>
    have hrest := ih fun x' hx' => h x' (List.mem_cons_of_mem x hx')
    rw [List.filter_cons, List.filter_cons, h x List.mem_cons_self y hxy]
    cases keep x with
    | false => exact hrest
    | true => exact by rw [if_pos rfl, if_pos rfl, List.mapM_cons, hxy, hrest]; rfl

theorem mem_of_mem_filterAuxM {f : α → Except ε Bool} {xs acc ys : List α}
    (h : xs.filterAuxM f acc = .ok ys) {y : α} (hy : y ∈ ys) : y ∈ xs ∨ y ∈ acc := by
  induction xs generalizing acc with
  | nil =>
    cases h
    exact Or.inr hy
  | cons x xs ih =>
    unfold List.filterAuxM at h
    obtain ⟨keep, -, h⟩ := bind_eq_ok.mp h
    rcases ih h with hxs | hacc
    · exact Or.inl (List.mem_cons_of_mem x hxs)
    · cases keep with
      | true =>
        rcases List.mem_cons.mp hacc with rfl | hacc
        · exact Or.inl List.mem_cons_self
        · exact Or.inr hacc
      | false => exact Or.inr hacc

/-- What a test keeps was there before. -/
theorem mem_of_mem_filterM {f : α → Except ε Bool} {xs ys : List α}
    (h : xs.filterM f = .ok ys) {y : α} (hy : y ∈ ys) : y ∈ xs := by
  unfold List.filterM at h
  obtain ⟨kept, hkept, h⟩ := bind_eq_ok.mp h
  cases h
  rcases mem_of_mem_filterAuxM hkept (List.mem_reverse.mp hy) with hxs | hnil
  · exact hxs
  · cases hnil

theorem filterAuxM_map {γ : Type} {f : α → Except ε Bool} {g : γ → α} (keep : γ → Bool) {xs : List γ}
    (h : ∀ x ∈ xs, f (g x) = .ok (keep x)) (acc : List α) :
    (xs.map g).filterAuxM f acc = .ok (((xs.filter keep).map g).reverse ++ acc) := by
  induction xs generalizing acc with
  | nil => rfl
  | cons x xs ih =>
    have hrest := ih fun x' hx' => h x' (List.mem_cons_of_mem x hx')
    rw [List.map_cons, List.filter_cons]
    unfold List.filterAuxM
    rw [h x List.mem_cons_self]
    cases keep x with
    | false => exact hrest acc
    | true => simpa using hrest (g x :: acc)

/-- A test that never fails keeps what a plain one does. -/
theorem filterM_map {γ : Type} {f : α → Except ε Bool} {g : γ → α} (keep : γ → Bool) {xs : List γ}
    (h : ∀ x ∈ xs, f (g x) = .ok (keep x)) :
    (xs.map g).filterM f = .ok ((xs.filter keep).map g) := by
  unfold List.filterM
  rw [filterAuxM_map keep h, ok_bind, List.append_nil, List.reverse_reverse]
  rfl

theorem filterM_total {f : α → Except ε Bool} {xs : List α} (h : ∀ x ∈ xs, ∃ b, f x = .ok b) :
    ∃ ys, xs.filterM f = .ok ys := by
  have hkeep : ∀ x ∈ xs, f (id x) = .ok ((f x).toOption.getD false) := by
    intro x hx
    obtain ⟨b, hb⟩ := h x hx
    rw [id, hb]
    rfl
  have hfilter := filterM_map (fun x => (f x).toOption.getD false) hkeep
  rw [List.map_id] at hfilter
  exact ⟨_, hfilter⟩

/-! ## Lists in another order -/

/-- With a single failure to meet, the elements may be worked through in any order. -/
theorem mapM_perm {f : α → Except ε β} {e : ε} {xs ys : List α} (hperm : xs.Perm ys)
    (hf : ∀ x ∈ xs, FailsOnly e (f x)) :
    (xs.mapM f).map Multiset.ofList = (ys.mapM f).map Multiset.ofList := by
  induction hperm with
  | nil => rfl
  | @cons x xs ys _ ih =>
    rw [List.mapM_cons, List.mapM_cons]
    apply map_bind_congr (n := id) rfl
    intro a b hab
    apply map_bind_congr (ih fun x' hx' => hf x' (List.mem_cons_of_mem x hx'))
    intro as bs habs
    cases hab
    exact congrArg Except.ok (Multiset.coe_eq_coe.mpr ((Multiset.coe_eq_coe.mp habs).cons a))
  | @swap x y xs =>
    have hx := hf x (by simp)
    have hy := hf y (by simp)
    simp only [List.mapM_cons]
    cases hfx : f x with
    | error e₁ =>
      cases hfy : f y with
      | error e₂ => rw [hx e₁ hfx, hy e₂ hfy]
      | ok b => rfl
    | ok a =>
      cases hfy : f y with
      | error e₂ => rfl
      | ok b =>
        cases xs.mapM f with
        | error e₃ => rfl
        | ok as => exact congrArg Except.ok (Multiset.coe_eq_coe.mpr (.swap a b as))
  | trans h₁ _ ih₁ ih₂ =>
    exact (ih₁ hf).trans (ih₂ fun x hx => hf x (h₁.mem_iff.mpr hx))

theorem filterAuxM_length (f : α → Except ε Bool) (xs acc : List α) :
    (xs.filterAuxM f acc).map List.length =
      (xs.mapM f).map fun keeps => keeps.count true + acc.length := by
  induction xs generalizing acc with
  | nil => simp [List.filterAuxM, Except.map]
  | cons x xs ih =>
    rw [List.mapM_cons]
    unfold List.filterAuxM
    cases f x with
    | error e => rfl
    | ok keep =>
      rw [ok_bind, ok_bind, ih]
      cases xs.mapM f with
      | error e => rfl
      | ok keeps =>
        apply congrArg Except.ok
        cases keep <;> simp
        omega

/-- How many elements a test keeps does not depend on their order. -/
theorem filterM_length_perm {f : α → Except ε Bool} {e : ε} {xs ys : List α} (hperm : xs.Perm ys)
    (hf : ∀ x ∈ xs, FailsOnly e (f x)) :
    (xs.filterM f).map List.length = (ys.filterM f).map List.length := by
  have hcount (zs : List α) : (zs.filterM f).map List.length =
      ((zs.mapM f).map Multiset.ofList).map (Multiset.count true) := by
    have haux := filterAuxM_length f zs []
    unfold List.filterM
    cases hkept : zs.filterAuxM f [] <;> cases hkeeps : zs.mapM f <;> rw [hkept, hkeeps] at haux
    · exact haux
    · cases haux
    · cases haux
    · simpa [Except.map] using haux
  rw [hcount, hcount, mapM_perm hperm hf]

end MomentInsights.Outcome
