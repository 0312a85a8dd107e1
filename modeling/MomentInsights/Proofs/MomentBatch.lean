-- Batches of moments. Each moment is judged by itself, by the tables and by the ids of
-- the moments of the batch that were stored before it. The others do not matter to it,
-- but for one: a moment whose values cannot be stored, and that nothing refuses, ends
-- the batch. What was stored before it stays, and the whole request fails.
import MomentInsights.Proofs.ServedRequests

namespace MomentInsights

/-! ## Rows of moments -/

namespace Tables

/-- The tables with further moments. -/
def withMoments (t : Tables) (ms : List Moment) : Tables := { t with moments := t.moments ++ ms }

@[simp] theorem withMoments_nil (t : Tables) : t.withMoments [] = t := by simp [withMoments]

@[simp] theorem withMoments_append (t : Tables) (ms ms' : List Moment) :
    t.withMoments (ms ++ ms') = (t.withMoments ms).withMoments ms' := by
  simp [withMoments]

theorem moment?_withMoments_eq_none {t : Tables} {ms : List Moment} {id : String} :
    (t.withMoments ms).moment? id = none ↔ t.moment? id = none ∧ ∀ m ∈ ms, m.id ≠ id := by
  simp [moment?, withMoments, List.find?_append]

end Tables

namespace Service

def Logged.moment? : Logged → Option Moment
  | .stored m => some m
  | .refused _ => none

/-- The moments that were stored, of those that were judged. -/
def storedOf (logged : List Logged) : List Moment := logged.filterMap Logged.moment?

@[simp] theorem storedOf_nil : storedOf [] = [] := rfl

@[simp] theorem storedOf_stored (m : Moment) : storedOf [.stored m] = [m] := rfl

@[simp] theorem storedOf_refused (r : Refusal) : storedOf [.refused r] = [] := rfl

theorem storedOf_cons (l : Logged) (ls : List Logged) :
    storedOf (l :: ls) = storedOf [l] ++ storedOf ls := by
  rw [← List.singleton_append, storedOf, List.filterMap_append]
  rfl

/-! ## One moment -/

/-- What becomes of a moment that would be stored under `id`. -/
inductive Judged (t : Tables) (f : MomentForm) (id : String) : Logged → Prop
  | unknownChild : t.child? f.childId = none → Judged t f id (.refused (.childNotFound f.childId))
  | taken : (t.child? f.childId).isSome → t.moment? id ≠ none →
      Judged t f id (.refused (.recordExists "moment" id))
  | unknownBehavior {time : Instant} : (t.child? f.childId).isSome → t.moment? id = none →
      f.time.utc = .ok time → f.pointsWith (t.behavior? f.behaviorId) = none →
      Judged t f id (.refused (.behaviorNotFound f.behaviorId))
  | stored {time : Instant} {points : Int} : (t.child? f.childId).isSome → t.moment? id = none →
      f.time.utc = .ok time → f.pointsWith (t.behavior? f.behaviorId) = some points →
      isStorable points = true →
      Judged t f id
        (.stored ⟨id, f.childId, f.behaviorId, time, points, f.rewardId, f.loggedBy, f.note⟩)

/-- Nothing refuses the moment, and its time or its points cannot be stored. -/
def Halts (t : Tables) (f : MomentForm) (id : String) : Prop :=
  (t.child? f.childId).isSome ∧ t.moment? id = none ∧
    ((∃ e, f.time.utc = .error e) ∨
      ∃ points, f.pointsWith (t.behavior? f.behaviorId) = some points ∧ isStorable points = false)

/-- Its child is known, its id is not taken, it has points or its behavior is known, and
its values can be stored. -/
def Acceptable (t : Tables) (f : MomentForm) (id : String) : Prop :=
  (t.child? f.childId).isSome ∧ t.moment? id = none ∧
    (f.points.isSome ∨ (t.behavior? f.behaviorId).isSome) ∧ (∃ time, f.time.utc = .ok time) ∧
    ∀ points, f.pointsWith (t.behavior? f.behaviorId) = some points → isStorable points = true

theorem pointsWith_isSome (f : MomentForm) (b : Option Behavior) :
    (f.pointsWith b).isSome ↔ f.points.isSome ∨ b.isSome := by
  unfold MomentForm.pointsWith
  cases f.points <;> cases b <;> simp

namespace Judged

variable {t : Tables} {f : MomentForm} {id : String} {l : Logged}

theorem not_halts (h : Judged t f id l) : ¬ Halts t f id := by
  rintro ⟨hchild, hnew, hvalues⟩
  cases h with
  | unknownChild hnone => simp [hnone] at hchild
  | taken _ htaken => exact htaken hnew
  | unknownBehavior _ _ htime hpoints => simp [htime, hpoints] at hvalues
  | stored _ _ htime hpoints hfits => simp [htime, hpoints, hfits] at hvalues

/-- A moment that is judged is stored just if it is acceptable. -/
theorem isStored_iff (h : Judged t f id l) : Server.isStored l = true ↔ Acceptable t f id := by
  unfold Acceptable
  rw [← pointsWith_isSome]
  cases h with
  | unknownChild hnone => simp [Server.isStored, hnone]
  | taken _ htaken => simp [Server.isStored, htaken]
  | unknownBehavior _ _ _ hpoints => simp [Server.isStored, hpoints]
  | stored hchild hnew htime hpoints hfits =>
    simp [Server.isStored, hchild, hnew, htime, hpoints, hfits]

theorem stored_id {m : Moment} (h : Judged t f id (.stored m)) :
    m.id = id ∧ (t.child? f.childId).isSome := by
  cases h with
  | stored hchild => exact ⟨rfl, hchild⟩

end Judged

/-! ## Made up ids -/

/-- The moment draws an id: it has none, and its child is known. -/
def draws (t : Tables) (f : MomentForm) : Bool := (t.child? f.childId).isSome && f.id.isNone

@[simp] theorem draws_withMoments (t : Tables) (ms : List Moment) :
    draws (t.withMoments ms) = draws t := rfl

/-- An id that the service makes up. -/
def newId (n : Nat) : String := s!"gen-{n}"

theorem newId_injective {m n : Nat} (h : newId m = newId n) : m = n := by
  have hrepr : m.repr = n.repr := by simpa [newId] using h
  have hdigits := congrArg String.toList hrepr
  rw [Nat.toList_repr, Nat.toList_repr] at hdigits
  rw [← Nat.ofDigitChars_ten_toDigits (n := m), hdigits, Nat.ofDigitChars_ten_toDigits]

namespace Server

variable {s : Server} {f : MomentForm} {fs : List MomentForm} {l : Logged} {logged : List Logged}

/-- The id under which a moment would be stored that stands behind `before`: the given
one, or the next new one. -/
def idAfter (s : Server) (before : List MomentForm) (f : MomentForm) : String :=
  f.id.getD (newId (s.issued + before.countP (draws s.tables) + 1))

/-- The ids that the service makes up from now on are neither stored nor given. -/
def MakesNewIds (s : Server) (fs : List MomentForm) : Prop :=
  ∀ k, s.issued < k → s.tables.moment? (newId k) = none ∧ ∀ f ∈ fs, f.id ≠ some (newId k)

theorem idFor_eq (s : Server) (f : MomentForm) :
    s.idFor f.id =
      (s.idAfter [] f, { s with issued := s.issued + if f.id.isNone then 1 else 0 }) := by
  unfold idFor idAfter newId
  cases f.id <;> rfl

/-- The service after a moment that was judged. -/
def afterOne (s : Server) (f : MomentForm) (l : Logged) : Server :=
  { s with
    tables := s.tables.withMoments (storedOf [l])
    issued := s.issued + if draws s.tables f then 1 else 0 }

theorem idAfter_afterOne (s : Server) (f : MomentForm) (l : Logged) (before : List MomentForm) :
    (s.afterOne f l).idAfter before = s.idAfter (f :: before) := by
  funext f'
  simp only [idAfter, afterOne, draws_withMoments, List.countP_cons]
  congr 2
  omega

/-- A moment is judged, or it ends the batch. -/
theorem logMoment_cases (s : Server) (f : MomentForm) :
    (∃ l, Judged s.tables f (s.idAfter [] f) l ∧ s.logMoment f = (some l, s.afterOne f l)) ∨
      Halts s.tables f (s.idAfter [] f) ∧ (s.logMoment f).1 = none ∧
        (s.logMoment f).2.tables = s.tables := by
  unfold logMoment afterOne draws
  rw [idFor_eq]
  cases hchild : s.tables.child? f.childId with
  | none =>
    left
    exact ⟨_, .unknownChild hchild, by simp⟩
  | some c =>
    have hknown : (s.tables.child? f.childId).isSome := by rw [hchild]; rfl
    cases hid : s.tables.moment? (s.idAfter [] f) with
    | some m =>
      left
      refine ⟨_, .taken hknown (by simp [hid]), ?_⟩
      simp [hid]
    | none =>
      cases htime : f.time.utc with
      | error e =>
        right
        refine ⟨⟨hknown, hid, Or.inl ⟨e, htime⟩⟩, ?_⟩
        simp [hid]
      | ok time =>
        cases hpoints : f.pointsWith (s.tables.behavior? f.behaviorId) with
        | none =>
          left
          refine ⟨_, .unknownBehavior hknown hid htime hpoints, ?_⟩
          simp [hid, hpoints]
        | some points =>
          cases hfits : isStorable points with
          | true =>
            left
            refine ⟨_, .stored hknown hid htime hpoints hfits, ?_⟩
            simp [hid, hpoints, hfits, Tables.addMoment, Tables.withMoments]
          | false =>
            right
            refine ⟨⟨hknown, hid, Or.inr ⟨points, hpoints, hfits⟩⟩, ?_⟩
            simp [hid, hpoints, hfits]

/-! ## The whole batch -/

/-- The tables as the moment at place `i` finds them. -/
def tablesAt (s : Server) (logged : List Logged) (i : Nat) : Tables :=
  s.tables.withMoments (storedOf (logged.take i))

/-- Each moment that the batch came to is judged beside those stored before it. -/
def JudgesAll (s : Server) (fs : List MomentForm) (logged : List Logged) : Prop :=
  ∀ i f l, fs[i]? = some f → logged[i]? = some l →
    Judged (s.tablesAt logged i) f (s.idAfter (fs.take i) f) l

/-- The first moment behind those that were judged ends the batch. -/
def HaltsBehind (s : Server) (fs : List MomentForm) (logged : List Logged) : Prop :=
  ∃ f, fs[logged.length]? = some f ∧
    Halts (s.tablesAt logged logged.length) f (s.idAfter (fs.take logged.length) f)

theorem tablesAt_cons (s : Server) (f : MomentForm) (l : Logged) (logged : List Logged) (i : Nat) :
    s.tablesAt (l :: logged) (i + 1) = (s.afterOne f l).tablesAt logged i := by
  unfold tablesAt afterOne
  rw [List.take_succ_cons, storedOf_cons, Tables.withMoments_append]

theorem JudgesAll.cons (hl : Judged s.tables f (s.idAfter [] f) l)
    (hall : (s.afterOne f l).JudgesAll fs logged) : s.JudgesAll (f :: fs) (l :: logged) := by
  intro i f' l' hf' hl'
  cases i with
  | zero =>
    cases hf'
    cases hl'
    simpa [tablesAt] using hl
  | succ i =>
    rw [tablesAt_cons s f, List.take_succ_cons, ← idAfter_afterOne s f l]
    exact hall i f' l' hf' hl'

theorem logMoments_judged (h : s.logMoment f = (some l, s.afterOne f l)) :
    s.logMoments (f :: fs) = (((s.afterOne f l).logMoments fs).1.map (l :: ·),
      ((s.afterOne f l).logMoments fs).2) := by
  rw [logMoments, h]

theorem logMoments_halted (h : (s.logMoment f).1 = none) :
    s.logMoments (f :: fs) = (none, (s.logMoment f).2) := by
  rw [logMoments]
  split <;> rename_i hlog <;> rw [hlog] at h
  · rw [hlog]
  · cases h

theorem HaltsBehind.cons (h : (s.afterOne f l).HaltsBehind fs logged) :
    s.HaltsBehind (f :: fs) (l :: logged) := by
  obtain ⟨f', hf', hhalts⟩ := h
  refine ⟨f', hf', ?_⟩
  rw [List.length_cons, tablesAt_cons s f, List.take_succ_cons, ← idAfter_afterOne s f l]
  exact hhalts

/-- The moments of a batch are judged one by one, to the end or to one that ends it. -/
theorem logMoments_run (s : Server) (fs : List MomentForm) :
    ∃ logged, s.JudgesAll fs logged ∧
      (s.logMoments fs).2.tables = s.tables.withMoments (storedOf logged) ∧
      (logged.length = fs.length ∧ (s.logMoments fs).1 = some logged ∨
        s.HaltsBehind fs logged ∧ (s.logMoments fs).1 = none) := by
  induction fs generalizing s with
  | nil =>
    refine ⟨[], ?_, by simp [logMoments], Or.inl ⟨rfl, rfl⟩⟩
    intro i f l hf
    cases hf
  | cons f fs ih =>
    rcases logMoment_cases s f with ⟨l, hl, hlog⟩ | ⟨hhalts, hnone, htables⟩
    · -- the others are judged on the tables and the counter that the first leaves
      obtain ⟨logged, hall, htables, hend⟩ := ih (s.afterOne f l)
      refine ⟨l :: logged, hall.cons hl, ?_, ?_⟩
      · rw [logMoments_judged hlog, storedOf_cons, Tables.withMoments_append]
        exact htables
      · rw [logMoments_judged hlog]
        rcases hend with ⟨hlength, hall⟩ | ⟨hbehind, hnone⟩
        · exact Or.inl ⟨congrArg Nat.succ hlength, by rw [hall]; rfl⟩
        · exact Or.inr ⟨hbehind.cons, by rw [hnone]; rfl⟩
    · refine ⟨[], ?_, ?_, Or.inr ⟨⟨f, rfl, ?_⟩, by rw [logMoments_halted hnone]⟩⟩
      · intro i f' l' _ hl'
        cases hl'
      · rw [logMoments_halted hnone, storedOf_nil, Tables.withMoments_nil]
        exact htables
      · simpa [tablesAt] using hhalts

/-- What each moment that is judged keeps true of the tables, a batch keeps true. -/
theorem logMoments_keeps {holds : Tables → Prop}
    (hstep : ∀ (t : Tables) f id l, holds t → Judged t f id l → holds (t.withMoments (storedOf [l])))
    (h : holds s.tables) (fs : List MomentForm) : holds (s.logMoments fs).2.tables := by
  induction fs generalizing s with
  | nil => exact h
  | cons f fs ih =>
    rcases logMoment_cases s f with ⟨l, hl, hlog⟩ | ⟨-, hnone, htables⟩
    · rw [logMoments_judged hlog]
      exact ih (hstep s.tables f _ l h hl)
    · rw [logMoments_halted hnone]
      exact htables ▸ h

theorem HaltsBehind.length_lt (h : s.HaltsBehind fs logged) : logged.length < fs.length := by
  obtain ⟨f, hf, -⟩ := h
  exact (List.getElem?_eq_some_iff.mp hf).1

/-! ## New ids -/

theorem exists_of_mem_storedOf {m : Moment} {i : Nat} (hm : m ∈ storedOf (logged.take i)) :
    ∃ j < i, logged[j]? = some (.stored m) := by
  obtain ⟨l, hl, hmoment⟩ := List.mem_filterMap.mp hm
  obtain ⟨j, hj⟩ := List.mem_iff_getElem?.mp hl
  rw [List.getElem?_take] at hj
  split at hj
  · rename_i hlt
    cases l with
    | stored m' =>
      cases hmoment
      exact ⟨j, hlt, hj⟩
    | refused r => cases hmoment
  · cases hj

/-- A moment that draws an id leaves fewer of them to those behind it. -/
theorem countP_lt_of_draws {t : Tables} {i j : Nat} (hij : j < i) (hf : fs[j]? = some f)
    (hdraws : draws t f = true) :
    (fs.take j).countP (draws t) < (fs.take i).countP (draws t) := by
  have hprefix : fs.take (j + 1) <+: fs.take i := List.take_prefix_take_left hij
  have hcount := hprefix.sublist.countP_le (p := draws t)
  rw [List.take_add_one, hf, List.countP_append] at hcount
  simp [hdraws] at hcount
  omega

/-- Where the ids that are made up are new, a moment without an id is stored under one
that nothing has. -/
theorem JudgesAll.unused (hall : s.JudgesAll fs logged) (hnew : s.MakesNewIds fs) {i : Nat}
    (hf : fs[i]? = some f) (hid : f.id = none) :
    (s.tablesAt logged i).moment? (s.idAfter (fs.take i) f) = none := by
  have hdrawn : s.idAfter (fs.take i) f =
      newId (s.issued + (fs.take i).countP (draws s.tables) + 1) := by
    rw [idAfter, hid]
    rfl
  rw [hdrawn]
  refine Tables.moment?_withMoments_eq_none.mpr ⟨(hnew _ (by omega)).1, ?_⟩
  intro m hm hsame
  obtain ⟨j, hji, hj⟩ := exists_of_mem_storedOf hm
  have hlt : j < fs.length := hji.trans (List.getElem?_eq_some_iff.mp hf).1
  obtain ⟨hm, hchild⟩ := (hall j fs[j] _ (List.getElem?_eq_getElem hlt) hj).stored_id
  rw [hm] at hsame
  -- a given id is none that is made up, and one made up before has a smaller number
  cases hgiven : fs[j].id with
  | some given =>
    have hne := (hnew _ (show s.issued < s.issued + (fs.take i).countP (draws s.tables) + 1 by
      omega)).2 fs[j] (List.getElem_mem hlt)
    rw [idAfter, hgiven, Option.getD_some] at hsame
    exact hne (by rw [hgiven, hsame])
  | none =>
    have hdraws : draws s.tables fs[j] = true := by
      simp only [draws, hgiven, Option.isNone_none, Bool.and_true]
      exact hchild
    have hcount := countP_lt_of_draws hji (List.getElem?_eq_getElem hlt) hdraws
    rw [idAfter, hgiven, Option.getD_none] at hsame
    have hnumber := newId_injective hsame
    omega

/-! ## Requests -/

theorem handle_batch {q : Request} (hq : q.GoesTo .momentBatch)
    (hform : q.form s.settings.bodyDepth checkBatch = .ok fs) (hempty : fs ≠ [])
    (hlimit : (fs.length : Int) ≤ s.settings.batchLimit) (hreach : s.reachable = true) :
    s.handle q = ((s.logMoments fs).1.elim .failed batchReply, (s.logMoments fs).2) := by
  have hserve : s.serve q .momentBatch = s.storeBatch fs := by
    rw [serve, withForm, hform]
  rw [handle_of_goesTo hq, hserve, storeBatch_eq hempty hlimit hreach]
  cases (s.logMoments fs).1 with
  | none => rfl
  | some logged => exact congrArg (·, _) (encoded_batchReply logged)

theorem handle_largeBatch {q : Request} (hq : q.GoesTo .momentBatch)
    (hform : q.form s.settings.bodyDepth checkBatch = .ok fs) (hempty : fs ≠ [])
    (hlimit : s.settings.batchLimit < fs.length) :
    s.handle q = (.refused (.batchTooLarge s.settings.batchLimit fs.length), s) := by
  have hserve : s.serve q .momentBatch = s.storeBatch fs := by
    rw [serve, withForm, hform]
  rw [handle_of_goesTo hq, hserve, storeBatch_tooLarge hempty hlimit]
  rfl

/-- Each moment of a batch is judged by itself, and just the acceptable ones are stored.
Unless one of them ends the batch, each has its result in the reply; else those before it
are stored, and the request fails. -/
theorem batch_items_apart {s : Server} {q : Request} {fs : List MomentForm}
    (hq : q.GoesTo .momentBatch) (hform : q.form s.settings.bodyDepth checkBatch = .ok fs)
    (hempty : fs ≠ []) (hlimit : (fs.length : Int) ≤ s.settings.batchLimit)
    (hreach : s.reachable = true) :
    ∃ logged : List Logged,
      (s.handle q).2.tables = s.tables.withMoments (storedOf logged) ∧
      (∀ i f l, fs[i]? = some f → logged[i]? = some l →
        Judged (s.tablesAt logged i) f (s.idAfter (fs.take i) f) l ∧
        (isStored l = true ↔ Acceptable (s.tablesAt logged i) f (s.idAfter (fs.take i) f))) ∧
      (s.MakesNewIds fs → ∀ i f, fs[i]? = some f → f.id = none →
        (s.tablesAt logged i).moment? (s.idAfter (fs.take i) f) = none) ∧
      (logged.length = fs.length ∧ (s.handle q).1 = batchReply logged ∧
          (∀ i f, fs[i]? = some f → ¬ Halts (s.tablesAt logged i) f (s.idAfter (fs.take i) f)) ∨
        logged.length < fs.length ∧ (s.handle q).1 = .failed ∧ s.HaltsBehind fs logged) := by
  obtain ⟨logged, hall, htables, hend⟩ := s.logMoments_run fs
  rw [handle_batch hq hform hempty hlimit hreach]
  refine ⟨logged, htables, ?_, ?_, ?_⟩
  · intro i f l hf hl
    have hjudged := hall i f l hf hl
    exact ⟨hjudged, hjudged.isStored_iff⟩
  · intro hnew i f hf hid
    exact hall.unused hnew hf hid
  · rcases hend with ⟨hlength, hsome⟩ | ⟨hbehind, hnone⟩
    · refine Or.inl ⟨hlength, by rw [hsome]; rfl, ?_⟩
      intro i f hf
      have hlt : i < logged.length := hlength ▸ (List.getElem?_eq_some_iff.mp hf).1
      exact (hall i f logged[i] hf (List.getElem?_eq_getElem hlt)).not_halts
    · exact Or.inr ⟨hbehind.length_lt, by rw [hnone]; rfl, hbehind⟩

def oneChild : Server := { clock := .epoch, tables := { children := [⟨"c1", "Ada", none, none⟩] } }

/-- A batch of two moments, the second of them before the first instant of UTC. -/
def earlyBatch : Request where
  method := "POST"
  path := "/records/moments/batch"
  query := []
  payload := .value <| .obj [("items", .arr [
    .obj [("child_id", .str "c1"), ("behavior_type_id", .str "b1"),
      ("timestamp", .str "2026-03-15T12:00:00Z"), ("points_applied", .whole 1)],
    .obj [("child_id", .str "c1"), ("behavior_type_id", .str "b1"),
      ("timestamp", .str "0001-01-01T00:00:00+05:00"), ("points_applied", .whole 1)]])]

theorem earlyBatch_form : ∃ fs,
    earlyBatch.form oneChild.settings.bodyDepth checkBatch = .ok fs ∧ fs ≠ [] ∧
      (fs.length : Int) ≤ oneChild.settings.batchLimit := by
  have hlength :
      (earlyBatch.form oneChild.settings.bodyDepth checkBatch).toOption.map List.length =
        some 2 := by
    decide +kernel
  cases hform : earlyBatch.form oneChild.settings.bodyDepth checkBatch with
  | error reply => simp [hform, Except.toOption] at hlength
  | ok fs =>
    rw [hform] at hlength
    have htwo : fs.length = 2 := Option.some.inj hlength
    refine ⟨fs, rfl, List.ne_nil_of_length_pos (by omega), ?_⟩
    rw [htwo]
    decide

theorem batch_items_apart_early :
    ∃ fs logged, earlyBatch.form oneChild.settings.bodyDepth checkBatch = .ok fs ∧
      (oneChild.handle earlyBatch).2.tables = oneChild.tables.withMoments (storedOf logged) ∧
      oneChild.HaltsBehind fs logged := by
  obtain ⟨fs, hform, hempty, hlimit⟩ := earlyBatch_form
  obtain ⟨logged, htables, -, -, hend⟩ :=
    batch_items_apart (by decide +kernel) hform hempty hlimit rfl
  refine ⟨fs, logged, hform, htables, ?_⟩
  rcases hend with ⟨-, hreply, -⟩ | ⟨-, -, hbehind⟩
  · have hstatus : (oneChild.handle earlyBatch).1.status = 500 := by decide +kernel
    rw [hreply] at hstatus
    cases hstatus
  · exact hbehind

/-- One time that UTC cannot show makes the whole batch fail. -/
theorem early_moment_fails_batch :
    ¬ ∀ (s : Server) (q : Request) (fs : List MomentForm), q.GoesTo .momentBatch →
      q.form s.settings.bodyDepth checkBatch = .ok fs → fs ≠ [] →
      (fs.length : Int) ≤ s.settings.batchLimit →
      s.reachable = true → (s.handle q).1.status = 207 := by
  intro hall
  obtain ⟨fs, hform, hempty, hlimit⟩ := earlyBatch_form
  have hstatus := hall oneChild earlyBatch fs (by decide +kernel) hform hempty hlimit rfl
  exact absurd hstatus (by decide +kernel)

end Server

end Service

end MomentInsights
