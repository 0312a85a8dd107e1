-- Orders that are given by a comparison: what sorting by one gives, where an
-- element stands in a list that is sorted with its places, what is left of a list
-- without its repeats, and the order of text.
import Mathlib.Data.List.Find
import Mathlib.Data.List.Nodup
import MomentInsights.Text.Wide

namespace MomentInsights

/-! ## Sorting by a comparison -/

namespace Order

variable {α : Type} {cmp : α → α → Ordering}

theorem isLE_total [Std.OrientedCmp cmp] (a b : α) :
    ((cmp a b).isLE || (cmp b a).isLE) = true := by
  have hswap : cmp b a = (cmp a b).swap := Std.OrientedCmp.eq_swap
  rw [hswap]
  cases cmp a b <;> rfl

theorem pairwise_isLE [Std.TransCmp cmp] (xs : List α) :
    (xs.mergeSort fun a b => (cmp a b).isLE).Pairwise fun a b => (cmp a b).isLE = true := by
  apply List.pairwise_mergeSort
  · intro a b c
    exact Std.TransCmp.isLE_trans
  · intro a b
    exact isLE_total a b

/-- Where only equal elements compare as equal, the order before the sorting does
not matter. -/
theorem sort_eq_of_perm [Std.TransCmp cmp] {xs ys : List α} (h : xs.Perm ys)
    (hequal : ∀ a ∈ xs, ∀ b ∈ xs, cmp a b = .eq → a = b) :
    (xs.mergeSort fun a b => (cmp a b).isLE) = ys.mergeSort fun a b => (cmp a b).isLE := by
  have hperm := ((List.mergeSort_perm xs fun a b => (cmp a b).isLE).trans h).trans
    (List.mergeSort_perm ys fun a b => (cmp a b).isLE).symm
  apply List.Perm.eq_of_pairwise _ (pairwise_isLE xs) (pairwise_isLE ys) hperm
  intro a b ha hb hab hba
  have hb' : b ∈ xs := h.mem_iff.mpr (List.mem_mergeSort.mp hb)
  exact hequal a (List.mem_mergeSort.mp ha) b hb' (Std.OrientedCmp.isLE_antisymm hab hba)

/-- Where no two elements compare as equal, the sorted list rises strictly. -/
theorem pairwise_lt [Std.TransCmp cmp] {xs : List α} (h : xs.Pairwise fun a b => cmp a b ≠ .eq) :
    (xs.mergeSort fun a b => (cmp a b).isLE).Pairwise fun a b => cmp a b = .lt := by
  have hne : (xs.mergeSort fun a b => (cmp a b).isLE).Pairwise fun a b => cmp a b ≠ .eq := by
    apply (List.mergeSort_perm xs _).symm.pairwise h
    intro a b hab heq
    exact hab (Std.OrientedCmp.eq_symm heq)
  apply ((pairwise_isLE xs).and hne).imp
  rintro a b ⟨hle, hab⟩
  cases hcmp : cmp a b with
  | lt => rfl
  | eq => exact absurd hcmp hab
  | gt => rw [hcmp] at hle; cases hle

/-- A filter may come before the sorting or after it, where no two elements
compare as equal. -/
theorem filter_sorted [Std.TransCmp cmp] {xs : List α} (h : xs.Pairwise fun a b => cmp a b ≠ .eq)
    (keep : α → Bool) :
    (xs.mergeSort fun a b => (cmp a b).isLE).filter keep =
      (xs.filter keep).mergeSort fun a b => (cmp a b).isLE := by
  have hsorted := (pairwise_lt h).filter keep
  have hfiltered := pairwise_lt (h.filter keep)
  have hperm := ((List.mergeSort_perm xs fun a b => (cmp a b).isLE).filter keep).trans
    (List.mergeSort_perm (xs.filter keep) fun a b => (cmp a b).isLE).symm
  apply List.Perm.eq_of_pairwise _ hsorted hfiltered hperm
  intro a b _ _ hab hba
  exact absurd hba (Std.OrientedCmp.not_lt_of_lt hab)

/-! ## Elements with their places -/

/-- The comparison of elements with their places: what compares as equal stands
as it stood before. -/
def inTurn (cmp : α → α → Ordering) (x y : α × Nat) : Ordering :=
  (cmp x.1 y.1).then (compare x.2 y.2)

instance [Std.TransCmp cmp] : Std.TransCmp (inTurn cmp) :=
  have : Std.TransCmp fun x y : α × Nat => cmp x.1 y.1 :=
    { eq_swap := Std.OrientedCmp.eq_swap, isLE_trans := Std.TransCmp.isLE_trans }
  inferInstanceAs (Std.TransCmp (compareLex (fun x y : α × Nat => cmp x.1 y.1) (compareOn Prod.snd)))

/-- The places rise along the list. -/
def Rising (xs : List (α × Nat)) : Prop := xs.Pairwise fun x y => x.2 < y.2

theorem rising_zipIdx (xs : List α) : Rising xs.zipIdx := by
  unfold Rising
  rw [List.pairwise_iff_getElem]
  intro i j hi hj hij
  simpa using hij

theorem Rising.distinct {xs : List (α × Nat)} (h : Rising xs) :
    xs.Pairwise fun x y => inTurn cmp x y ≠ .eq := by
  apply h.imp
  intro x y hlt heq
  have hsnd := (Ordering.then_eq_eq.mp heq).2
  rw [Nat.compare_eq_eq] at hsnd
  omega

theorem Rising.le_iff {xs : List (α × Nat)} (h : Rising xs) {i j : Nat} (hi : i < xs.length)
    (hj : j < xs.length) : xs[i].2 ≤ xs[j].2 ↔ i ≤ j := by
  have hlt := List.pairwise_iff_getElem.mp h
  rcases Nat.lt_trichotomy i j with hij | rfl | hij
  · have := hlt i j hi hj hij
    omega
  · simp
  · have := hlt j i hj hi hij
    omega

theorem zipIdxLE_eq [Std.OrientedCmp cmp] {a b : α} {i j n m : Nat} (h : i ≤ j ↔ n ≤ m) :
    List.zipIdxLE (fun a b => (cmp a b).isLE) (a, i) (b, j) = (inTurn cmp (a, n) (b, m)).isLE := by
  have hswap : cmp b a = (cmp a b).swap := Std.OrientedCmp.eq_swap
  unfold List.zipIdxLE inTurn
  cases hab : cmp a b with
  | lt => simp [hswap, hab]
  | eq =>
    rw [Bool.eq_iff_iff]
    simp [hswap, hab, h, Nat.isLE_compare]
  | gt => simp [hab]

/-- Sorting with rising places is the sorting that keeps equals in their turn. -/
theorem Rising.sort_fst [Std.OrientedCmp cmp] {xs : List (α × Nat)} (h : Rising xs) :
    (xs.mergeSort fun x y => (inTurn cmp x y).isLE).map Prod.fst =
      (xs.map Prod.fst).mergeSort fun a b => (cmp a b).isLE := by
  -- The places of `xs` are named by their own places, in the same order.
  let rename (x : α × Nat) : α × Nat := (x.1, (xs.map Prod.snd).getD x.2 0)
  have hrename : (xs.map Prod.fst).zipIdx.map rename = xs := by
    apply List.ext_getElem
    · simp
    · intro i hi hi'
      simp [rename, hi']
  have hturn : ∀ x ∈ (xs.map Prod.fst).zipIdx, ∀ y ∈ (xs.map Prod.fst).zipIdx,
      List.zipIdxLE (fun a b => (cmp a b).isLE) x y = (inTurn cmp (rename x) (rename y)).isLE := by
    rintro ⟨a, i⟩ hx ⟨b, j⟩ hy
    have hi : i < xs.length := by simpa using List.snd_lt_of_mem_zipIdx hx
    have hj : j < xs.length := by simpa using List.snd_lt_of_mem_zipIdx hy
    apply zipIdxLE_eq
    simpa [rename, hi, hj] using (h.le_iff hi hj).symm
  have hmap := List.map_mergeSort (f := rename) (s := fun x y => (inTurn cmp x y).isLE) hturn
  rw [hrename] at hmap
  rw [← hmap, List.map_map]
  exact List.mergeSort_zipIdx

/-- The list in order, each element with its place in the list. -/
def placed (cmp : α → α → Ordering) (xs : List α) : List (α × Nat) :=
  xs.zipIdx.mergeSort fun x y => (inTurn cmp x y).isLE

theorem placed_pairwise [Std.TransCmp cmp] (xs : List α) :
    (placed cmp xs).Pairwise fun x y => inTurn cmp x y = .lt :=
  pairwise_lt (rising_zipIdx xs).distinct

theorem placed_perm (xs : List α) : (placed cmp xs).Perm xs.zipIdx := List.mergeSort_perm _ _

theorem placed_fst [Std.OrientedCmp cmp] (xs : List α) :
    (placed cmp xs).map Prod.fst = xs.mergeSort fun a b => (cmp a b).isLE := by
  have h := @Rising.sort_fst α cmp _ _ (rising_zipIdx xs)
  rwa [List.zipIdx_map_fst] at h

theorem placed_filter_fst [Std.TransCmp cmp] (xs : List α) (keep : α × Nat → Bool) :
    ((placed cmp xs).filter keep).map Prod.fst =
      ((xs.zipIdx.filter keep).map Prod.fst).mergeSort fun a b => (cmp a b).isLE := by
  have hrising : Rising (xs.zipIdx.filter keep) := (rising_zipIdx xs).filter keep
  unfold placed
  rw [filter_sorted (rising_zipIdx xs).distinct, hrising.sort_fst]

/-- What compares as equal keeps its turn, so a filter may come before the sorting or after
it. -/
theorem filter_sort (cmp : α → α → Ordering) [Std.TransCmp cmp] (xs : List α) (keep : α → Bool) :
    (xs.mergeSort fun a b => (cmp a b).isLE).filter keep =
      (xs.filter keep).mergeSort fun a b => (cmp a b).isLE := by
  have hplaced : ((placed cmp xs).filter (keep ∘ Prod.fst)).map Prod.fst = _ :=
    placed_filter_fst xs (keep ∘ Prod.fst)
  rw [← List.filter_map, placed_fst, ← List.filter_map, List.zipIdx_map_fst] at hplaced
  exact hplaced

/-! ## The first of the least -/

/-- The element is the first of the least: what stands before it is greater, and nothing after
it is less. -/
def FirstLeast (cmp : α → α → Ordering) (xs : List α) (m : α) : Prop :=
  ∃ before after, xs = before ++ m :: after ∧ (∀ a ∈ before, cmp m a = .lt) ∧
    ∀ a ∈ after, (cmp m a).isLE = true

/-- A sorted list begins with the first of the least. -/
theorem firstLeast_of_sort (cmp : α → α → Ordering) [Std.TransCmp cmp] {xs rest : List α} {m : α}
    (h : (xs.mergeSort fun a b => (cmp a b).isLE) = m :: rest) : FirstLeast cmp xs m := by
  have hself : cmp m m = .eq := Std.ReflCmp.compare_self
  have hle : ∀ a ∈ xs, (cmp m a).isLE = true := by
    intro a ha
    have hsorted : (m :: rest).Pairwise fun a b => (cmp a b).isLE = true := h ▸ pairwise_isLE xs
    have ha' : a ∈ xs.mergeSort fun a b => (cmp a b).isLE := List.mem_mergeSort.mpr ha
    rw [h, List.mem_cons] at ha'
    rcases ha' with rfl | ha'
    · rw [hself]
      rfl
    · exact (List.pairwise_cons.mp hsorted).1 a ha'
  -- Its equals keep their turn in the sorting, so it is the first of them.
  have hequals : (xs.filter fun a => cmp m a = .eq).Pairwise fun a b => (cmp a b).isLE = true := by
    apply List.pairwise_of_forall_mem_list
    intro a ha b hb
    have ha := of_decide_eq_true (List.mem_filter.mp ha).2
    have hb := of_decide_eq_true (List.mem_filter.mp hb).2
    rw [Std.TransCmp.eq_trans (Std.OrientedCmp.eq_symm ha) hb]
    rfl
  have hfilter := filter_sort cmp xs fun a => cmp m a = .eq
  rw [h, List.filter_cons_of_pos (by simp [hself]), List.mergeSort_of_pairwise hequals] at hfilter
  obtain ⟨before, after, rfl, hbefore, -, -⟩ := List.filter_eq_cons_iff.mp hfilter.symm
  refine ⟨before, after, rfl, ?_, ?_⟩
  · intro a ha
    have hne := hbefore a ha
    have hle := hle a (List.mem_append_left _ ha)
    cases hcmp : cmp m a with
    | lt => rfl
    | eq => simp [hcmp] at hne
    | gt => simp [hcmp] at hle
  · intro a ha
    exact hle a (List.mem_append_right _ (List.mem_cons_of_mem m ha))

namespace FirstLeast

variable {xs : List α} {m : α}

theorem mem (h : FirstLeast cmp xs m) : m ∈ xs := by
  obtain ⟨before, after, rfl, -, -⟩ := h
  simp

theorem isLE [Std.ReflCmp cmp] (h : FirstLeast cmp xs m) {a : α} (ha : a ∈ xs) :
    (cmp m a).isLE = true := by
  obtain ⟨before, after, rfl, hbefore, hafter⟩ := h
  rcases List.mem_append.mp ha with ha | ha
  · rw [hbefore a ha]
    rfl
  · rcases List.mem_cons.mp ha with rfl | ha
    · have hself : cmp a a = .eq := Std.ReflCmp.compare_self
      rw [hself]
      rfl
    · exact hafter a ha

/-- It is also the first of the least of those that a filter keeps. -/
theorem filter (h : FirstLeast cmp xs m) {keep : α → Bool} (hm : keep m = true) :
    FirstLeast cmp (xs.filter keep) m := by
  obtain ⟨before, after, rfl, hbefore, hafter⟩ := h
  refine ⟨before.filter keep, after.filter keep, ?_, ?_, ?_⟩
  · rw [List.filter_append, List.filter_cons_of_pos hm]
  · intro a ha
    exact hbefore a (List.mem_of_mem_filter ha)
  · intro a ha
    exact hafter a (List.mem_of_mem_filter ha)

/-- Another comparison does as well that agrees on the elements. -/
theorem congr (h : FirstLeast cmp xs m) {cmp' : α → α → Ordering}
    (hcmp : ∀ a ∈ xs, cmp' m a = cmp m a) : FirstLeast cmp' xs m := by
  obtain ⟨before, after, rfl, hbefore, hafter⟩ := h
  refine ⟨before, after, rfl, ?_, ?_⟩
  · intro a ha
    rw [hcmp a (List.mem_append_left _ ha)]
    exact hbefore a ha
  · intro a ha
    rw [hcmp a (List.mem_append_right _ (List.mem_cons_of_mem m ha))]
    exact hafter a ha

end FirstLeast

/-! ## Rows and their keys -/

/-- Rows with keys of their own are in one order only, where the order tells keys apart. -/
theorem sort_rows (cmp : α → α → Ordering) [Std.TransCmp cmp] {κ : Type} {key : α → κ}
    {rows rows' : List α} (h : rows'.Perm rows) (hkeys : (rows.map key).Nodup)
    (hcmp : ∀ a b, cmp a b = .eq → key a = key b) :
    (rows'.mergeSort fun a b => (cmp a b).isLE) = rows.mergeSort fun a b => (cmp a b).isLE := by
  symm
  apply sort_eq_of_perm h.symm
  intro a ha b hb hab
  exact List.inj_on_of_nodup_map hkeys ha hb (hcmp a b hab)

/-- The row of a key is found wherever it stands. -/
theorem find?_row {κ : Type} [BEq κ] [LawfulBEq κ] {key : α → κ} {rows rows' : List α}
    (h : rows'.Perm rows) (hkeys : (rows.map key).Nodup) (k : κ) :
    rows'.find? (key · == k) = rows.find? (key · == k) := by
  symm
  apply List.find?_eq_find?_of_perm h.symm
  rintro a ⟨ha, hkey⟩ b ⟨hb, hkey'⟩
  exact List.inj_on_of_nodup_map hkeys ha hb ((beq_iff_eq.mp hkey).trans (beq_iff_eq.mp hkey').symm)

/-! ## Repeats -/

theorem nodup_eraseDups {α : Type} [BEq α] [LawfulBEq α] (xs : List α) : xs.eraseDups.Nodup := by
  induction hn : xs.length using Nat.strongRecOn generalizing xs with
  | ind n ih =>
    cases xs with
    | nil => simp
    | cons x xs =>
      rw [List.eraseDups_cons, List.nodup_cons]
      refine ⟨by simp, ih _ ?_ _ rfl⟩
      have := List.length_filter_le (fun y => !y == x) xs
      simp only [List.length_cons] at hn
      omega

theorem eraseDups_perm [BEq α] [LawfulBEq α] {xs ys : List α} (h : xs.Perm ys) :
    xs.eraseDups.Perm ys.eraseDups := by
  rw [List.perm_ext_iff_of_nodup (nodup_eraseDups xs) (nodup_eraseDups ys)]
  intro x
  rw [List.mem_eraseDups, List.mem_eraseDups]
  exact h.mem_iff

theorem eraseDups_filter {α : Type} [BEq α] [LawfulBEq α] (keep : α → Bool) (xs : List α) :
    (xs.filter keep).eraseDups = xs.eraseDups.filter keep := by
  induction hn : xs.length using Nat.strongRecOn generalizing xs with
  | ind n ih =>
    cases xs with
    | nil => rfl
    | cons x xs =>
      have hle := List.length_filter_le (fun y => !y == x) xs
      simp only [List.length_cons] at hn
      have hrest := ih _ (by omega) (xs.filter fun y => !y == x) rfl
      rw [List.eraseDups_cons, List.filter_cons, List.filter_cons, ← hrest]
      split
      · rw [List.eraseDups_cons, List.filter_filter, List.filter_filter]
        simp only [Bool.and_comm]
      · rename_i hx
        congr 1
        rw [List.filter_filter]
        apply List.filter_congr
        intro y _
        by_cases hyx : y = x
        · simp [hyx, hx]
        · simp [hyx]

/-- Elements that are all apart are all left. -/
theorem eraseDupsBy_of_apart {α : Type} {same : α → α → Bool} {xs : List α}
    (h : xs.Pairwise fun x y => same y x = false) : xs.eraseDupsBy same = xs := by
  induction xs with
  | nil => rfl
  | cons x xs ih =>
    obtain ⟨hx, hxs⟩ := List.pairwise_cons.mp h
    have hfilter : (xs.filter fun y => decide (same y x = false)) = xs :=
      List.filter_eq_self.mpr fun y hy => decide_eq_true (hx y hy)
    rw [List.eraseDupsBy_cons, hfilter, ih hxs]

theorem mem_of_mem_eraseDupsBy {α : Type} {same : α → α → Bool} {xs : List α} {x : α}
    (h : x ∈ xs.eraseDupsBy same) : x ∈ xs := by
  induction hn : xs.length using Nat.strongRecOn generalizing xs with
  | ind n ih =>
    cases xs with
    | nil => exact h
    | cons y ys =>
      rw [List.eraseDupsBy_cons] at h
      rcases List.mem_cons.mp h with rfl | h
      · exact List.mem_cons_self
      · have hle := List.length_filter_le (fun z => same z y = false) ys
        simp only [List.length_cons] at hn
        exact List.mem_cons_of_mem y (List.mem_filter.mp (ih _ (by omega) h rfl)).1

/-- What is left of a list is the first element of each key. -/
theorem mem_eraseDupsBy_iff {α β : Type} [BEq β] [LawfulBEq β] (key : α → β) {xs : List α} {x : α} :
    x ∈ xs.eraseDupsBy (fun a b => key a == key b) ↔ xs.find? (key · == key x) = some x := by
  induction hn : xs.length using Nat.strongRecOn generalizing xs with
  | ind n ih =>
    cases xs with
    | nil => simp [List.eraseDupsBy, List.eraseDupsBy.loop]
    | cons y ys =>
      have hle := List.length_filter_le (fun z => (key z == key y) = false) ys
      simp only [List.length_cons] at hn
      have hrest : x ∈ (ys.filter fun z => (key z == key y) = false).eraseDupsBy
          (fun a b => key a == key b) ↔ _ := ih _ (by omega) rfl
      rw [List.eraseDupsBy_cons, List.mem_cons, hrest, List.find?_cons]
      by_cases hkey : key y = key x
      · have hnone : (ys.filter fun z => (key z == key y) = false).find? (key · == key x) = none := by
          rw [List.find?_eq_none]
          intro z hz
          simpa [hkey] using (List.mem_filter.mp hz).2
        rw [hnone, beq_iff_eq.mpr hkey]
        constructor
        · rintro (rfl | hnever)
          · rfl
          · cases hnever
        · intro heq
          exact Or.inl (Option.some.inj heq).symm
      · have hsame : (ys.filter fun z => (key z == key y) = false).find? (key · == key x) =
            ys.find? (key · == key x) := by
          rw [List.find?_filter]
          congr 1
          funext z
          by_cases hz : key z = key x
          · simp [hz, Ne.symm hkey]
          · simp [hz]
        have hne : x ≠ y := by
          rintro rfl
          exact hkey rfl
        rw [hsame, beq_eq_false_iff_ne.mpr hkey]
        exact or_iff_right hne

theorem nodup_map_eraseDupsBy {α β : Type} [BEq β] [LawfulBEq β] (key : α → β) (xs : List α) :
    ((xs.eraseDupsBy fun a b => key a == key b).map key).Nodup := by
  induction hn : xs.length using Nat.strongRecOn generalizing xs with
  | ind n ih =>
    cases xs with
    | nil => exact List.nodup_nil
    | cons y ys =>
      have hle := List.length_filter_le (fun z => (key z == key y) = false) ys
      simp only [List.length_cons] at hn
      rw [List.eraseDupsBy_cons, List.map_cons, List.nodup_cons]
      refine ⟨?_, ih _ (by omega) _ rfl⟩
      intro hy
      obtain ⟨z, hz, heq⟩ := List.mem_map.mp hy
      have hkept := (List.mem_filter.mp (mem_of_mem_eraseDupsBy hz)).2
      simp [heq] at hkept

end Order

/-! ## The order of text -/

namespace WideText

theorem codePoints_injective {v w : WideText} (h : v.codePoints = w.codePoints) : v = w := by
  obtain ⟨ps⟩ := v
  obtain ⟨qs⟩ := w
  rw [WideText.mk.injEq]
  exact List.map_injective_iff.mpr (fun _ _ => Point.number_injective) h

instance : Std.TransOrd WideText := inferInstanceAs (Std.TransCmp (compareOn codePoints))

instance : Std.LawfulEqOrd WideText where
  eq_of_compare h := codePoints_injective (Std.LawfulEqOrd.eq_of_compare h)

end WideText

end MomentInsights
