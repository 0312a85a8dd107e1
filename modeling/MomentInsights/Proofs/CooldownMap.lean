-- The cooldown store as a map: for each pair of a template and a child, the time
-- at which it was last shown. The records of a store that was only ever written
-- by its own commands hold such a map, one record for each pair.
import MomentInsights.Cooldown.Store
import MomentInsights.Proofs.CooldownCodec
import MomentInsights.Proofs.Order

namespace MomentInsights.Cooldown

/-! ## The map -/

/-- When a template was last shown to a child, as far as that is kept. -/
abbrev Showings := String × String → Option Instant

namespace Showings

def empty : Showings := fun _ => none

/-- The pairs are shown at `time`, and what is out of retention is forgotten.
A time whose rest has no end changes nothing. -/
def record (p : Periods) (m : Showings) (pairs : List (String × String)) (time : Instant) :
    Showings :=
  if time.add? p.rest = none then m
  else fun pair =>
    (if pair ∈ pairs then some time else m pair).filter fun shown => time.back p.retention < shown

def clearChild (m : Showings) (childId : String) : Showings :=
  fun pair => if pair.2 = childId then none else m pair

/-- When the rest of the pair ends. -/
def endOf (p : Periods) (m : Showings) (pair : String × String) : Option Instant :=
  (m pair).bind fun shown => shown.add? p.rest

/-- Every rest has an end. -/
def Ends (p : Periods) (m : Showings) : Prop :=
  ∀ pair shown, m pair = some shown → p.hasEnd shown = true

theorem ends_empty (p : Periods) : Ends p empty := by
  intro pair shown h
  cases h

theorem Ends.record {p : Periods} {m : Showings} (h : Ends p m) (pairs : List (String × String))
    (time : Instant) : Ends p (m.record p pairs time) := by
  unfold Showings.record
  split
  · exact h
  · rename_i hend
    intro pair shown hshown
    obtain ⟨hshown, -⟩ := Option.filter_eq_some_iff.mp hshown
    by_cases hp : pair ∈ pairs
    · simp only [hp, if_true, Option.some.injEq] at hshown
      rw [← hshown]
      exact Option.isSome_iff_ne_none.mpr hend
    · rw [if_neg hp] at hshown
      exact h pair shown hshown

theorem Ends.clearChild {p : Periods} {m : Showings} (h : Ends p m) (childId : String) :
    Ends p (m.clearChild childId) := by
  intro pair shown hshown
  unfold Showings.clearChild at hshown
  split at hshown
  · cases hshown
  · exact h pair shown hshown

end Showings

/-! ## Records that hold a map -/

def Record.samePair (r r' : Record) : Prop := r.templateId = r'.templateId ∧ r.childId = r'.childId

/-- The records are those of the map, and no pair has two of them. -/
structure Lists (m : Showings) (rs : List Record) : Prop where
  once : rs.Pairwise fun r r' => ¬ r.samePair r'
  mem : ∀ r, r ∈ rs ↔ ∃ pair shown, m pair = some shown ∧ r = Record.ofPair pair shown

theorem samePair_ofPair {pair pair' : String × String} {shown shown' : Instant} :
    (Record.ofPair pair shown).samePair (Record.ofPair pair' shown') ↔ pair = pair' := by
  constructor
  · rintro ⟨ht, hc⟩
    exact Prod.ext (WideText.ofString_injective ht) (WideText.ofString_injective hc)
  · rintro rfl
    exact ⟨rfl, rfl⟩

theorem isFor_ofPair {pair pair' : String × String} {shown : Instant} :
    (Record.ofPair pair shown).isFor pair' = true ↔ pair = pair' := by
  have h := @samePair_ofPair pair pair' shown shown
  unfold Record.isFor
  rw [Bool.and_eq_true, beq_iff_eq, beq_iff_eq]
  exact h

theorem ofPair_injective {pair pair' : String × String} {shown shown' : Instant}
    (h : Record.ofPair pair shown = Record.ofPair pair' shown') : pair = pair' ∧ shown = shown' :=
  ⟨samePair_ofPair.mp ⟨congrArg Record.templateId h, congrArg Record.childId h⟩,
    congrArg Record.shown h⟩

theorem lists_empty : Lists Showings.empty [] := ⟨List.Pairwise.nil, by simp [Showings.empty]⟩

theorem Lists.ofPair_mem {m : Showings} {rs : List Record} (h : Lists m rs)
    {pair : String × String} {shown : Instant} :
    Record.ofPair pair shown ∈ rs ↔ m pair = some shown := by
  rw [h.mem]
  constructor
  · rintro ⟨pair', shown', hm, heq⟩
    obtain ⟨rfl, rfl⟩ := ofPair_injective heq
    exact hm
  · intro hm
    exact ⟨pair, shown, hm, rfl⟩

theorem Lists.readsBack {p : Periods} {m : Showings} {rs : List Record} (h : Lists m rs)
    (hends : m.Ends p) : ∀ r ∈ rs, p.ReadsBack r := by
  intro r hr
  obtain ⟨pair, shown, hm, rfl⟩ := (h.mem r).mp hr
  exact readsBack_ofPair (hends pair shown hm) pair

/-- The record that is found for a pair holds what the map gives. -/
theorem Lists.find? {m : Showings} {rs : List Record} (h : Lists m rs) (templateId childId : String) :
    Store.find? rs templateId childId =
      (m (templateId, childId)).map (Record.ofPair (templateId, childId)) := by
  unfold Store.find?
  cases hm : m (templateId, childId) with
  | none =>
    rw [Option.map_none, List.find?_eq_none]
    intro r hr hfor
    obtain ⟨pair, shown, hpair, rfl⟩ := (h.mem r).mp hr
    rw [isFor_ofPair.mp hfor, hm] at hpair
    exact absurd hpair (by simp)
  | some shown =>
    have hsome : (rs.find? (·.isFor (templateId, childId))).isSome = true := by
      rw [List.find?_isSome]
      exact ⟨_, h.ofPair_mem.mpr hm, isFor_ofPair.mpr rfl⟩
    obtain ⟨r, hfound⟩ := Option.isSome_iff_exists.mp hsome
    obtain ⟨pair, shown', hpair, rfl⟩ := (h.mem r).mp (List.mem_of_find?_eq_some hfound)
    have hfor : (Record.ofPair pair shown').isFor (templateId, childId) = true := by
      have := List.find?_some hfound
      exact this
    obtain rfl := isFor_ofPair.mp hfor
    rw [hm] at hpair
    cases hpair
    rw [hfound, Option.map_some]

/-! ## What a write does to the records -/

/-- Records that stay behind after a filter hold the map without the others. -/
theorem Lists.filter {m m' : Showings} {rs : List Record} {keep : Record → Bool} (h : Lists m rs)
    (hkeep : ∀ pair shown, m' pair = some shown ↔
      m pair = some shown ∧ keep (Record.ofPair pair shown) = true) :
    Lists m' (rs.filter keep) := by
  refine ⟨h.once.filter _, ?_⟩
  intro r
  rw [List.mem_filter, h.mem]
  constructor
  · rintro ⟨⟨pair, shown, hm, rfl⟩, hr⟩
    exact ⟨pair, shown, (hkeep pair shown).mpr ⟨hm, hr⟩, rfl⟩
  · rintro ⟨pair, shown, hm, rfl⟩
    have := (hkeep pair shown).mp hm
    exact ⟨⟨pair, shown, this.1, rfl⟩, this.2⟩

/-- Fresh records take the place of the old ones, so that no pair has two of them. -/
theorem once_replaced {rs : List Record} (h : rs.Pairwise fun r r' => ¬ r.samePair r')
    (pairs : List (String × String)) (time : Instant) :
    ((rs.filter fun r => !pairs.eraseDups.any r.isFor) ++
      pairs.eraseDups.map (Record.ofPair · time)).Pairwise fun r r' => ¬ r.samePair r' := by
  rw [List.pairwise_append]
  refine ⟨h.filter _, ?_, ?_⟩
  · rw [List.pairwise_map]
    apply (Order.nodup_eraseDups pairs).imp
    intro pair pair' hne hsame
    exact hne (samePair_ofPair.mp hsame)
  · intro r hr r' hr' hsame
    obtain ⟨pair, hpair, rfl⟩ := List.mem_map.mp hr'
    have hfor : r.isFor pair = true := by
      unfold Record.isFor
      rw [Bool.and_eq_true, beq_iff_eq, beq_iff_eq]
      exact hsame
    have hany : pairs.eraseDups.any r.isFor = true := List.any_eq_true.mpr ⟨pair, hpair, hfor⟩
    simp [hany] at hr

/-- Fresh records for the pairs take the place of the old ones. -/
theorem Lists.replace {m : Showings} {rs : List Record} (h : Lists m rs)
    (pairs : List (String × String)) (time : Instant) :
    Lists (fun pair => if pair ∈ pairs then some time else m pair)
      ((rs.filter fun r => !pairs.eraseDups.any r.isFor) ++
        pairs.eraseDups.map (Record.ofPair · time)) := by
  have hothers : Lists (fun pair => if pair ∈ pairs then none else m pair)
      (rs.filter fun r => !pairs.eraseDups.any r.isFor) := by
    apply h.filter
    intro pair shown
    have hany : pairs.eraseDups.any (Record.ofPair pair shown).isFor = true ↔ pair ∈ pairs := by
      rw [List.any_eq_true]
      constructor
      · rintro ⟨pair', hpair', hfor⟩
        rw [isFor_ofPair.mp hfor]
        exact List.mem_eraseDups.mp hpair'
      · intro hp
        exact ⟨pair, List.mem_eraseDups.mpr hp, isFor_ofPair.mpr rfl⟩
    by_cases hp : pair ∈ pairs
    · simp [hp, hany.mpr hp]
    · simp [hp, mt hany.mp hp]
  refine ⟨once_replaced h.once pairs time, ?_⟩
  intro r
  rw [List.mem_append, hothers.mem, List.mem_map]
  constructor
  · rintro (⟨pair, shown, hm, rfl⟩ | ⟨pair, hpair, rfl⟩)
    · refine ⟨pair, shown, ?_, rfl⟩
      by_cases hp : pair ∈ pairs
      · simp [hp] at hm
      · simpa [hp] using hm
    · exact ⟨pair, time, by rw [if_pos (List.mem_eraseDups.mp hpair)], rfl⟩
  · rintro ⟨pair, shown, hm, rfl⟩
    by_cases hp : pair ∈ pairs
    · right
      simp only [hp, if_true, Option.some.injEq] at hm
      exact ⟨pair, List.mem_eraseDups.mpr hp, by rw [hm]⟩
    · left
      exact ⟨pair, shown, by simpa [hp] using hm, rfl⟩

/-- The records after a write at `time`. -/
def Store.kept (p : Periods) (rs : List Record) (pairs : List (String × String)) (time : Instant) :
    List Record :=
  ((rs.filter fun r => !pairs.eraseDups.any r.isFor) ++
    pairs.eraseDups.map (Record.ofPair · time)).filter fun r => time.back p.retention < r.shown

/-- Fresh records for the pairs come behind those of the others, and some may be dropped. A
record that is left is one that was there, or a fresh one. -/
theorem Store.mem_of_mem_replaced {rs : List Record} {pairs : List (String × String)}
    {time : Instant} {keep : Record → Bool} {r : Record}
    (h : r ∈ ((rs.filter fun r => !pairs.eraseDups.any r.isFor) ++
      pairs.eraseDups.map (Record.ofPair · time)).filter keep) :
    r ∈ rs ∨ ∃ pair ∈ pairs, r = .ofPair pair time := by
  rcases List.mem_append.mp (List.mem_of_mem_filter h) with hold | hfresh
  · exact Or.inl (List.mem_of_mem_filter hold)
  · obtain ⟨pair, hpair, rfl⟩ := List.mem_map.mp hfresh
    exact Or.inr ⟨pair, List.mem_eraseDups.mp hpair, rfl⟩

theorem Store.mem_of_mem_kept {p : Periods} {rs : List Record} {pairs : List (String × String)}
    {time : Instant} {r : Record} (h : r ∈ kept p rs pairs time) :
    r ∈ rs ∨ ∃ pair ∈ pairs, r = .ofPair pair time :=
  mem_of_mem_replaced h

theorem Store.recorded_eq {p : Periods} (hback : p.retention.neg = .ok ⟨-p.retention.micros⟩)
    (rs : List Record) (pairs : List (String × String)) (time : Instant) :
    Store.recorded p rs pairs time = .ok (Store.kept p rs pairs time) := by
  unfold Store.recorded
  rw [hback]
  rfl

theorem Lists.kept {p : Periods} {m : Showings} {rs : List Record} (h : Lists m rs) {time : Instant}
    (hend : p.hasEnd time = true) (pairs : List (String × String)) :
    Lists (m.record p pairs time) (Store.kept p rs pairs time) := by
  apply (h.replace pairs time).filter
  intro pair shown
  have hsome : time.add? p.rest ≠ none := Option.isSome_iff_ne_none.mp hend
  unfold Showings.record
  rw [if_neg hsome, Option.filter_eq_some_iff]
  exact Iff.rfl

theorem Lists.clearChild {m : Showings} {rs : List Record} (h : Lists m rs) (childId : String) :
    Lists (m.clearChild childId) (rs.filter fun r => r.childId != .ofString childId) := by
  apply h.filter
  intro pair shown
  have hchild : WideText.ofString pair.2 = WideText.ofString childId ↔ pair.2 = childId :=
    ⟨WideText.ofString_injective, congrArg _⟩
  by_cases hc : pair.2 = childId <;> simp [Showings.clearChild, Record.ofPair, hchild, hc]

/-! ## The rests that have not ended -/

/-- Order by child, then by template. -/
def Active.order (a b : Active) : Ordering :=
  (compare a.childId b.childId).then (compare a.templateId b.templateId)

instance : Std.TransCmp Active.order :=
  inferInstanceAs (Std.TransCmp (compareLex (compareOn Active.childId) (compareOn Active.templateId)))

theorem Active.order_eq {a b : Active} :
    a.order b = .eq ↔ a.childId = b.childId ∧ a.templateId = b.templateId := by
  unfold Active.order
  rw [Ordering.then_eq_eq, Std.LawfulEqOrd.compare_eq_iff_eq, Std.LawfulEqOrd.compare_eq_iff_eq]

/-- The rests of the map that have not ended at `now`, each once, in order. -/
structure ListsActive (p : Periods) (m : Showings) (now : Instant) (rests : List Active) : Prop where
  sorted : rests.Pairwise fun a b => a.order b = .lt
  mem : ∀ a, a ∈ rests ↔
    ∃ pair ends, m.endOf p pair = some ends ∧ now < ends ∧ a = ⟨pair.1, pair.2, ends⟩

/-- The end of a rest that has one is no stopped sum. -/
theorem endOf_record {p : Periods} {r : Record} (h : p.hasEnd r.shown = true) :
    r.shown.add? p.rest = some (p.endOf r) := by
  obtain ⟨ends, hends⟩ := Option.isSome_iff_exists.mp h
  unfold Periods.endOf Instant.shift
  rw [hends]

theorem Showings.Ends.endOf {p : Periods} {m : Showings} (h : m.Ends p) (pair : String × String) :
    m.endOf p pair = ((m pair).map (Record.ofPair pair)).map p.endOf := by
  unfold Showings.endOf
  cases hm : m pair with
  | none => rfl
  | some shown =>
    have hend : p.hasEnd (Record.ofPair pair shown).shown = true := h pair shown hm
    exact endOf_record hend

theorem Lists.active {p : Periods} {m : Showings} {rs : List Record} (h : Lists m rs)
    (hends : m.Ends p) (now : Instant) :
    ListsActive p m now (Store.activeOf p rs now) := by
  refine ⟨?_, ?_⟩
  · apply Order.pairwise_lt
    apply List.Pairwise.filter
    rw [List.pairwise_map]
    apply h.once.imp
    intro r r' hne heq
    obtain ⟨hchild, htemplate⟩ := Active.order_eq.mp heq
    exact hne ⟨htemplate, hchild⟩
  · intro a
    unfold Store.activeOf
    rw [List.mem_mergeSort, List.mem_filter, List.mem_map]
    constructor
    · rintro ⟨⟨r, hr, rfl⟩, hnow⟩
      obtain ⟨pair, shown, hm, rfl⟩ := (h.mem r).mp hr
      refine ⟨pair, p.endOf (Record.ofPair pair shown), ?_, by simpa using hnow, rfl⟩
      rw [hends.endOf, hm]
      rfl
    · rintro ⟨pair, ends, hend, hnow, rfl⟩
      rw [hends.endOf] at hend
      obtain ⟨r, hr, rfl⟩ := Option.map_eq_some_iff.mp hend
      obtain ⟨shown, hm, rfl⟩ := Option.map_eq_some_iff.mp hr
      exact ⟨⟨_, h.ofPair_mem.mpr hm, rfl⟩, by simpa using hnow⟩

/-! ## The store -/

/-- The store holds the map in the records `rs`: they are what its text reads
as, in whatever room, and what its cache holds once it is filled. -/
structure Store.Holds (p : Periods) (s : Store) (rs : List Record) (m : Showings) : Prop where
  periods : s.periods = p
  back : p.retention.neg = .ok ⟨-p.retention.micros⟩
  text : ∀ room, decode p room s.text = .ok rs
  cache : s.cache = none ∨ s.cache = some rs
  lists : Lists m rs
  ends : m.Ends p

namespace Store

variable {p : Periods} {s : Store} {rs : List Record} {m : Showings}

theorem holds_empty (hp : s.periods = p) (hback : p.retention.neg = .ok ⟨-p.retention.micros⟩)
    (htext : s.text = none) (hcache : s.cache = none) : Holds p s [] Showings.empty where
  periods := hp
  back := hback
  text room := by rw [htext]; exact decode_none p room
  cache := Or.inl hcache
  lists := lists_empty
  ends := Showings.ends_empty p

theorem Holds.cached (h : Holds p s rs m) : Holds p { s with cache := some rs } rs m :=
  { h with cache := Or.inr rfl }

theorem Holds.invalidate (h : Holds p s rs m) : Holds p s.invalidate rs m :=
  { h with cache := Or.inl rfl }

theorem Holds.records (h : Holds p s rs m) : s.records = .ok (rs, { s with cache := some rs }) := by
  unfold Store.records
  rcases h.cache with hc | hc
  · simp [hc, h.periods, h.text]
  · simp [hc]
    rw [← hc]

theorem Holds.cooldownEnd (h : Holds p s rs m) (templateId childId : String) :
    s.cooldownEnd templateId childId =
      .ok (m.endOf p (templateId, childId), { s with cache := some rs }) := by
  unfold Store.cooldownEnd
  rw [h.records, h.ends.endOf]
  simp [h.lists.find?, h.periods]

theorem Holds.isOnCooldown (h : Holds p s rs m) (templateId childId : String) (now : Timestamp) :
    s.isOnCooldown templateId childId now =
      (match m.endOf p (templateId, childId) with
        | none => .ok false
        | some ends => now.utc.map (· < ends), { s with cache := some rs }) := by
  unfold Store.isOnCooldown
  rw [h.cooldownEnd]
  cases m.endOf p (templateId, childId) <;> rfl

theorem Holds.active (h : Holds p s rs m) (now : Instant) :
    s.active now = .ok (activeOf p rs now, { s with cache := some rs }) := by
  unfold Store.active
  rw [h.records]
  simp [h.periods]

theorem locked_periods (s : Store) : s.locked.periods = s.periods := by
  unfold locked
  split <;> rfl

/-- Saving leaves nothing of what was stored. -/
theorem locked_save (s : Store) (rs : List Record) : s.locked.save rs = s.save rs := by
  unfold locked
  split <;> rfl

/-- A writer finds the same records, whether it seeds the text or not. -/
theorem decode_locked (s : Store) :
    decode s.locked.periods s.locked.room s.locked.text = decode s.periods s.room s.text := by
  unfold locked
  split
  · rename_i hseed
    have hnone : s.text = none := by
      rw [Bool.and_eq_true] at hseed
      exact Option.isNone_iff_eq_none.mp hseed.2
    rw [hnone]
    exact decode_seed s.periods _
  · rfl

/-- What a write of displays does to a store whose text can be read. -/
theorem recordMany_of_decode (hback : s.periods.retention.neg = .ok ⟨-s.periods.retention.micros⟩)
    (hdecode : decode s.periods s.room s.text = .ok rs) (pairs : List (String × String))
    (time : Instant) :
    s.recordMany pairs time =
      (.ok (), if s.periods.hasEnd time then s.save (kept s.periods rs pairs time) else s) := by
  have hrecorded : recorded s.locked.periods rs pairs time = .ok (kept s.periods rs pairs time) := by
    rw [locked_periods]
    exact recorded_eq hback rs pairs time
  unfold recordMany
  cases s.periods.hasEnd time with
  | false => rfl
  | true =>
    simp only [Bool.not_true, Bool.false_eq_true, if_false, if_true]
    rw [decode_locked, hdecode, Outcome.ok_bind, hrecorded]
    simp only [locked_save]

theorem clearChild_eq (s : Store) (childId : String) :
    s.clearChild childId = (do
      let rs ← decode s.periods s.room s.text
      return s.save (rs.filter fun r => r.childId != .ofString childId)) := by
  unfold clearChild
  simp only [decode_locked, locked_save]

theorem Holds.save (h : Holds p s rs m) {rs' : List Record} {m' : Showings} (hl : Lists m' rs')
    (hends : m'.Ends p) : Holds p (s.save rs') rs' m' where
  periods := h.periods
  back := h.back
  text := decode_encode (hl.readsBack hends)
  cache := Or.inr rfl
  lists := hl
  ends := hends

theorem Holds.recordMany_eq (h : Holds p s rs m) (pairs : List (String × String)) (time : Instant) :
    s.recordMany pairs time =
      (.ok (), if p.hasEnd time then s.save (kept p rs pairs time) else s) := by
  have hperiods := h.periods
  subst hperiods
  exact recordMany_of_decode h.back (h.text s.room) pairs time

theorem Holds.recordMany (h : Holds p s rs m) (pairs : List (String × String)) (time : Instant) :
    ∃ rs', Holds p (s.recordMany pairs time).2 rs' (m.record p pairs time) := by
  rw [h.recordMany_eq]
  cases hend : p.hasEnd time with
  | false =>
    have hnone : time.add? p.rest = none := by simpa [Periods.hasEnd] using hend
    refine ⟨rs, ?_⟩
    rw [Showings.record, if_pos hnone]
    exact h
  | true => exact ⟨_, h.save (h.lists.kept hend pairs) (h.ends.record pairs time)⟩

theorem Holds.clearChild_eq (h : Holds p s rs m) (childId : String) :
    s.clearChild childId = .ok (s.save (rs.filter fun r => r.childId != .ofString childId)) := by
  rw [Store.clearChild_eq, h.periods, h.text]
  rfl

theorem Holds.clearChild (h : Holds p s rs m) (childId : String) :
    Holds p (s.save (rs.filter fun r => r.childId != .ofString childId))
      (rs.filter fun r => r.childId != .ofString childId) (m.clearChild childId) :=
  h.save (h.lists.clearChild childId) (h.ends.clearChild childId)

theorem Holds.clearAll (h : Holds p s rs m) : Holds p s.clearAll [] Showings.empty :=
  holds_empty h.periods h.back rfl rfl

end Store

end MomentInsights.Cooldown
