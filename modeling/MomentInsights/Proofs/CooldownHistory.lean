-- Cooldowns over whole runs of evaluations and displays. The store keeps one
-- record for a pair and forgets the old ones, and still it answers by the latest
-- display of the run: what it forgets was shown too long ago to rest.
import MomentInsights.Proofs.CooldownMap
import MomentInsights.Proofs.Evaluation

namespace MomentInsights

/-- Callers may name the instant. -/
def Instant.Supported (u : Instant) : Prop :=
  Timestamp.earliestSupported ≤ u ∧ u < Timestamp.latestSupported

instance (u : Instant) : Decidable u.Supported := inferInstanceAs (Decidable (_ ∧ _))

namespace Engine

open Cooldown (Store Record Periods Showings)

/-! ## Runs -/

inductive Call where
  | evaluate (src : Source) (childId : String)
  /-- Cards were displayed, given by template and child. -/
  | display (pairs : List (String × String))

/-- A call at a time. -/
structure Step where
  time : Timestamp
  call : Call

/-- The store after the call; an evaluation that fails leaves it as it was. -/
def Step.next (store : Store) (step : Step) : Store :=
  match step.call with
  | .display pairs => (recordDisplayed pairs store step.time).2
  | .evaluate src childId =>
    match step.time.utc with
    | .error _ => store
    | .ok now =>
      match run src store childId now with
      | .ok (_, store) => store
      | .error _ => store

def storeAfter (store : Store) (steps : List Step) : Store := steps.foldl Step.next store

/-- When the call displayed the pair. -/
def Step.shown (pair : String × String) (step : Step) : Option Instant :=
  match step.call with
  | .display pairs => if pairs.contains pair then step.time.utc.toOption else none
  | .evaluate _ _ => none

/-- When the pair was displayed last. -/
def lastShown (history : List Step) (pair : String × String) : Option Instant :=
  (history.filterMap (Step.shown pair)).getLast?

/-- Less than three days have gone by since the pair was displayed last. -/
def restsBy (history : List Step) (now : Instant) (pair : String × String) : Bool :=
  (lastShown history pair).any fun shown =>
    (now.micros : Int) < shown.micros + (Duration.days 3).micros

theorem lastShown_snoc (history : List Step) (step : Step) (pair : String × String) :
    lastShown (history ++ [step]) pair = (step.shown pair).or (lastShown history pair) := by
  unfold lastShown
  rw [List.filterMap_append, List.getLast?_append]
  cases h : step.shown pair <;> simp [h]

/-- A display decides for the pairs it names, and leaves the others to the history. -/
theorem lastShown_display (history : List Step) {time : Timestamp} {u : Instant}
    (hutc : time.utc = .ok u) (pairs : List (String × String)) (pair : String × String) :
    lastShown (history ++ [⟨time, .display pairs⟩]) pair =
      if pair ∈ pairs then some u else lastShown history pair := by
  have hshown : Step.shown pair ⟨time, .display pairs⟩ =
      if pair ∈ pairs then some u else none := by
    unfold Step.shown
    simp only [List.contains_iff_mem]
    rw [hutc]
    rfl
  rw [lastShown_snoc, hshown]
  split <;> rfl

/-! ## Rests of three days -/

/-- A rest has not ended while less than three days have gone by since it started. -/
theorem ends_after_iff {m : Showings} (h : m.Ends .standard) (now : Instant)
    (pair : String × String) :
    (m.endOf .standard pair).any (now < ·) =
      (m pair).any fun shown => (now.micros : Int) < shown.micros + (Duration.days 3).micros := by
  unfold Showings.endOf
  cases hm : m pair with
  | none => rw [Option.bind_none, Option.any_none, Option.any_none]
  | some shown =>
    obtain ⟨ends, hends⟩ := Option.isSome_iff_exists.mp (h pair shown hm)
    have hmicros : (shown.micros : Int) + Periods.standard.rest.micros = ends.micros :=
      Instant.ofMicros?_eq_some.mp hends
    have hrest : Periods.standard.rest = Duration.days 3 := rfl
    rw [hrest] at hmicros
    have hlt : now < ends ↔ (now.micros : Int) < shown.micros + (Duration.days 3).micros := by
      rw [hmicros]
      exact Int.ofNat_lt.symm
    rw [Option.bind_some, hends, Option.any_some, Option.any_some]
    exact decide_eq_decide.mpr hlt

/-! ## What the store keeps of a run -/

/-- The store holds the map `m`. What the map has is the latest display, and what it
has lost is past its retention. -/
structure Tracks (history : List Step) (latest : Instant) (store : Store) (rs : List Record)
    (m : Showings) : Prop where
  holds : store.Holds .standard rs m
  kept : ∀ pair shown, m pair = some shown → lastShown history pair = some shown
  lost : ∀ pair shown, lastShown history pair = some shown →
    m pair = some shown ∨ (shown.micros : Int) + (Duration.days 30).micros ≤ latest.micros

variable {history : List Step} {latest : Instant} {store : Store} {rs : List Record} {m : Showings}

/-- What the store says is what the history says. -/
theorem Tracks.resting (h : Tracks history latest store rs m) {now : Instant} (hnow : latest ≤ now)
    (pair : String × String) :
    Store.resting .standard rs now pair = restsBy history now pair := by
  have hle : latest.micros ≤ now.micros := hnow
  have hmap : Store.resting .standard rs now pair =
      (m.endOf .standard pair).any (now < ·) := by
    unfold Store.resting
    rw [h.holds.lists.find?, h.holds.ends.endOf]
  rw [hmap, ends_after_iff h.holds.ends]
  unfold restsBy
  cases hm : m pair with
  | some shown => rw [h.kept pair shown hm]
  | none =>
    cases hlast : lastShown history pair with
    | none => rfl
    | some shown =>
      rcases h.lost pair shown hlast with hkept | hlost
      · rw [hm] at hkept
        cases hkept
      · have hdays : (Duration.days 3).micros ≤ (Duration.days 30).micros := by decide
        have hlong : ¬ (now.micros : Int) < shown.micros + (Duration.days 3).micros := by omega
        rw [Option.any_none, Option.any_some]
        exact (decide_eq_false hlong).symm

/-! ## What a call keeps -/

theorem supported_spec {time : Timestamp} {u : Instant} (h : time.supported = .ok u) :
    time.utc = .ok u ∧ u.Supported := by
  unfold Timestamp.supported at h
  cases hutc : time.utc with
  | error f =>
    rw [hutc] at h
    cases h
  | ok v =>
    rw [hutc] at h
    dsimp only at h
    split at h
    · rename_i hrange
      cases h
      exact ⟨rfl, hrange⟩
    · cases h

/-- The rest that starts at a supported time has an end. -/
theorem hasEnd_of_supported {u : Instant} (h : u < Timestamp.latestSupported) :
    Periods.standard.hasEnd u = true := by
  have hlt : u.micros < 283980988800000000 := h
  have hdays : Periods.standard.rest.micros = 259200000000 := rfl
  have hsome : u.add? Periods.standard.rest =
      some ⟨u.micros + 259200000000, by omega⟩ := by
    unfold Instant.add?
    rw [Instant.ofMicros?_eq_some, hdays]
    simp only
    omega
  unfold Periods.hasEnd
  rw [hsome]
  rfl

/-- The cutoff of a write at a supported time is thirty days before it. -/
theorem back_of_supported {u : Instant} (h : Timestamp.earliestSupported ≤ u) :
    ((u.back Periods.standard.retention).micros : Int) = u.micros - (Duration.days 30).micros := by
  have hle : 719162 * 86400000000 ≤ u.micros := h
  have hlt := u.inRange
  have hdays : (Duration.days 30).micros = 2592000000000 := rfl
  have hcount : (Instant.count : Int) = 315537897600000000 := rfl
  unfold Instant.back
  rw [Instant.shift_micros]
  have hneg : -(Periods.standard.retention).micros = -2592000000000 := rfl
  simp only [hneg]
  omega

/-- What was lost stays too old. -/
theorem Tracks.later (h : Tracks history latest store rs m) {step : Step} {u : Instant}
    (hle : latest ≤ u) (hshown : ∀ pair, step.shown pair = none) :
    Tracks (history ++ [step]) u store rs m := by
  have hlast (pair : String × String) :
      lastShown (history ++ [step]) pair = lastShown history pair := by
    rw [lastShown_snoc, hshown pair, Option.none_or]
  have hmicros : latest.micros ≤ u.micros := hle
  refine ⟨h.holds, ?_, ?_⟩
  · intro pair shown hm
    rw [hlast]
    exact h.kept pair shown hm
  · intro pair shown hshown
    rw [hlast] at hshown
    rcases h.lost pair shown hshown with hm | hold
    · exact Or.inl hm
    · right
      omega

theorem Tracks.evaluate (h : Tracks history latest store rs m) {time : Timestamp} {u : Instant}
    (hle : latest ≤ u) (src : Source) (childId : String) :
    Tracks (history ++ [⟨time, .evaluate src childId⟩]) u
      (Step.next store ⟨time, .evaluate src childId⟩) rs m := by
  have hstore : Step.next store ⟨time, .evaluate src childId⟩ = store ∨
      Step.next store ⟨time, .evaluate src childId⟩ = { store with cache := some rs } := by
    unfold Step.next
    dsimp only
    split
    · exact Or.inl rfl
    · split
      · rename_i r store' hrun
        rcases run_store hrun with hsame | ⟨rs', hrecords⟩
        · exact Or.inl hsame
        · rw [h.holds.records] at hrecords
          cases hrecords
          exact Or.inr rfl
      · exact Or.inl rfl
  have hlater : Tracks (history ++ [⟨time, .evaluate src childId⟩]) u store rs m :=
    h.later hle fun _ => rfl
  rcases hstore with hstore | hstore
  · rw [hstore]
    exact hlater
  · rw [hstore]
    exact ⟨h.holds.cached, hlater.kept, hlater.lost⟩

/-- At a supported time a display is recorded, and what is kept is younger than
thirty days. -/
theorem record_eq_some {u : Instant} (hearly : Timestamp.earliestSupported ≤ u)
    (hlate : u < Timestamp.latestSupported) {pairs : List (String × String)} {pair : String × String}
    {shown : Instant} :
    m.record .standard pairs u pair = some shown ↔
      (if pair ∈ pairs then some u else m pair) = some shown ∧
        (u.micros : Int) < shown.micros + (Duration.days 30).micros := by
  have hend : u.add? Periods.standard.rest ≠ none :=
    Option.isSome_iff_ne_none.mp (hasEnd_of_supported hlate)
  have hback := back_of_supported hearly
  have hyoung : u.back Periods.standard.retention < shown ↔
      (u.micros : Int) < shown.micros + (Duration.days 30).micros := by
    rw [show u.back Periods.standard.retention < shown ↔
      (u.back Periods.standard.retention).micros < shown.micros from Iff.rfl]
    omega
  unfold Showings.record
  rw [if_neg hend, Option.filter_eq_some_iff, decide_eq_true_eq, hyoung]

/-- A display is one write of its pairs. -/
theorem recordDisplayed_of_utc {time : Timestamp} {u : Instant} (hutc : time.utc = .ok u)
    (pairs : List (String × String)) (store : Store) :
    recordDisplayed pairs store time =
      if pairs.isEmpty then (.ok (), store) else store.recordMany pairs u := by
  unfold recordDisplayed
  rw [hutc]
  rfl

theorem Tracks.display (h : Tracks history latest store rs m) {time : Timestamp} {u : Instant}
    (hle : latest ≤ u) (hu : time.supported = .ok u) (pairs : List (String × String)) :
    ∃ rs' m', Tracks (history ++ [⟨time, .display pairs⟩]) u
      (Step.next store ⟨time, .display pairs⟩) rs' m' := by
  obtain ⟨hutc, hearly, hlate⟩ := supported_spec hu
  have hmicros : latest.micros ≤ u.micros := hle
  have hlast := lastShown_display history hutc pairs
  by_cases hnone : pairs = []
  · subst hnone
    exact ⟨rs, m, h.later hle fun _ => rfl⟩
  · have hnext : Step.next store ⟨time, .display pairs⟩ = (store.recordMany pairs u).2 := by
      unfold Step.next
      simp [recordDisplayed_of_utc hutc, hnone]
    obtain ⟨rs', hholds⟩ := h.holds.recordMany pairs u
    refine ⟨rs', m.record .standard pairs u, by rw [hnext]; exact hholds, ?_, ?_⟩
    · intro pair shown hm
      obtain ⟨hm, -⟩ := (record_eq_some hearly hlate).mp hm
      rw [hlast]
      by_cases hp : pair ∈ pairs
      · rw [if_pos hp] at hm ⊢
        exact hm
      · rw [if_neg hp] at hm ⊢
        exact h.kept pair shown hm
    · intro pair shown hlastShown
      rw [hlast] at hlastShown
      rw [record_eq_some hearly hlate]
      by_cases hp : pair ∈ pairs
      · rw [if_pos hp] at hlastShown ⊢
        cases hlastShown
        left
        refine ⟨rfl, ?_⟩
        have : (0 : Int) < (Duration.days 30).micros := by decide
        omega
      · rw [if_neg hp] at hlastShown ⊢
        rcases h.lost pair shown hlastShown with hm | hold
        · by_cases hyoung : (u.micros : Int) < shown.micros + (Duration.days 30).micros
          · exact Or.inl ⟨hm, hyoung⟩
          · right
            omega
        · right
          omega

/-! ## Whole runs -/

theorem Tracks.next (h : Tracks history latest store rs m) {step : Step} {u : Instant}
    (hle : latest ≤ u) (hu : step.time.supported = .ok u) :
    ∃ rs' m', Tracks (history ++ [step]) u (step.next store) rs' m' := by
  obtain ⟨time, call⟩ := step
  cases call with
  | evaluate src childId => exact ⟨rs, m, h.evaluate hle src childId⟩
  | display pairs => exact h.display hle hu pairs

/-- A run whose times never go back is tracked to its end. -/
theorem Tracks.after (h : Tracks history latest store rs m) {steps : List Step}
    {instants : List Instant}
    (hsupported : List.Forall₂ (fun step u => step.time.supported = .ok u) steps instants)
    {now : Instant} (hordered : (latest :: instants ++ [now]).Pairwise (· ≤ ·)) :
    ∃ last rs' m', last ≤ now ∧
      Tracks (history ++ steps) last (storeAfter store steps) rs' m' := by
  induction hsupported generalizing history latest store rs m with
  | nil =>
    rw [List.append_nil]
    exact ⟨latest, rs, m, List.rel_of_pairwise_cons hordered (by simp), h⟩
  | @cons step u steps instants hu _ ih =>
    obtain ⟨hlatest, hrest⟩ := List.pairwise_cons.mp hordered
    obtain ⟨rs', m', h'⟩ := h.next (hlatest u (by simp)) hu
    have hafter := ih h' hrest
    rw [List.append_assoc] at hafter
    exact hafter

/-- A store without text tracks the run from its start. -/
theorem tracks_fresh (room : Cooldown.Room) (seeds : Bool) :
    Tracks [] Instant.first { room, seeds } [] Showings.empty := by
  have hback : Periods.standard.retention.neg = .ok ⟨-Periods.standard.retention.micros⟩ := rfl
  refine ⟨Store.holds_empty rfl hback rfl rfl, ?_, ?_⟩
  · intro pair shown hm
    cases hm
  · intro pair shown hshown
    cases hshown

theorem card_of_cooldownDrop (cards : List Card) (ends : Card → Option Instant) :
    ((cards.map fun c => Ranking.cooldownDrop c (ends c)).filter
      (·.reason == .cooldownActive)).map (·.card) = cards := by
  induction cards with
  | nil => rfl
  | cons c cs ih => simpa [Ranking.cooldownDrop] using ih

/-- The cards that are dropped for their cooldown. -/
theorem Evaluates.droppedFor_cooldown {child : Child} {t : Timeline} {p : Periods} {r : Report}
    (h : Evaluates child t p rs r) :
    (r.droppedFor .cooldownActive).map (·.card) =
      (Ranking.safetyRails (Evidence.valid t.eventIds r.built)).1.filter
        fun c => Store.resting p rs t.now c.shownPair := by
  have hinvalid : (((Evidence.invalid t.eventIds r.built).map fun x =>
      (⟨x.1, .evidenceInvalid, x.2.message⟩ : Dropped)).filter (·.reason == .cooldownActive)) = [] := by
    rw [List.filter_eq_nil_iff]
    intro d hd
    obtain ⟨x, -, rfl⟩ := List.mem_map.mp hd
    simp
  have hrails : ((Ranking.safetyRails (Evidence.valid t.eventIds r.built)).2.filter
      (·.reason == .cooldownActive)) = [] := by
    rw [List.filter_eq_nil_iff]
    intro d hd
    rcases Ranking.walkRails_reason _ _ _ d hd with hr | hr <;> simp [hr]
  unfold Report.droppedFor
  rw [h.dropped, List.filter_append, List.filter_append, hinvalid, hrails, List.nil_append,
    List.nil_append]
  exact card_of_cooldownDrop _ _

/-- After any run of evaluations and displays whose times are supported and never
go back, the cards that the rails keep are dropped for their cooldown just when the
last display of their pair was less than three days ago, and the others are
selected. The run makes no evaluation fail. -/
theorem cooldown_by_last_display {steps : List Step} {instants : List Instant}
    (hsupported : List.Forall₂ (fun step u => step.time.supported = .ok u) steps instants)
    {now : Instant} (hordered : (instants ++ [now]).Pairwise (· ≤ ·)) {src : Source}
    {childId : String} {child : Child} (hchild : src.child childId = some child)
    (hevents : minEvents ≤ (Timeline.ofEvents (src.events childId) now).fortnight.length)
    (room : Cooldown.Room) (seeds : Bool) :
    let t := Timeline.ofEvents (src.events childId) now
    let store := storeAfter { room, seeds } steps
    (∀ r store', run src store childId now = .ok (r, store') →
      let safe := (Ranking.safetyRails (Evidence.valid t.eventIds r.built)).1
      (r.droppedFor .cooldownActive).map (·.card) =
          safe.filter (fun c => restsBy steps now c.shownPair) ∧
        r.selected = safe.filter fun c => !restsBy steps now c.shownPair) ∧
    (∀ f, run src store childId now = .error f →
      Detect.all (src.goals childId) src.routines t = .error f ∨
        statsOf t (src.goals childId) src.routines = .error f) := by
  intro t store
  have hfirst : (Instant.first :: instants ++ [now]).Pairwise (· ≤ ·) := by
    rw [List.cons_append, List.pairwise_cons]
    exact ⟨fun u _ => Nat.zero_le u.micros, hordered⟩
  obtain ⟨last, rs, m, hlast, htracks⟩ := (tracks_fresh room seeds).after hsupported hfirst
  rw [List.nil_append] at htracks
  obtain ⟨hok, herror⟩ := @run_known src store childId now child hchild hevents
  have hrecords := htracks.holds.records
  constructor
  · intro r store' hrun safe
    obtain ⟨rs', hrecords', -, hr⟩ := hok r store' hrun
    rw [hrecords] at hrecords'
    cases hrecords'
    rw [htracks.holds.periods] at hr
    refine ⟨?_, ?_⟩
    · rw [hr.droppedFor_cooldown]
      exact List.filter_congr fun c _ => htracks.resting hlast c.shownPair
    · rw [hr.selected]
      exact List.filter_congr fun c _ => congrArg (!·) (htracks.resting hlast c.shownPair)
  · intro f hrun
    rcases herror f hrun with h | h | h
    · exact Or.inl h
    · rw [hrecords] at h
      cases h
    · exact Or.inr h

def nineteenthDay : Instant := Instant.epoch.shift (Duration.days 19)

/-- The card for the stalled goal is displayed on the nineteenth day. -/
def oneDisplay : List Step :=
  [⟨Timestamp.ofInstant nineteenthDay, .display [("goal_stalled", "c1")]⟩]

/-- A day after its display the card is not selected. -/
theorem cooldown_by_last_display_oldSource :
    ∃ r store', run oldSource (storeAfter {} oneDisplay) "c1" twentiethDay = .ok (r, store') ∧
      ∀ c ∈ r.selected, c.shownPair ≠ ("goal_stalled", "c1") := by
  have hsupported : List.Forall₂ (fun step u => step.time.supported = .ok u) oneDisplay
      [nineteenthDay] := .cons rfl .nil
  have hordered : ([nineteenthDay] ++ [twentiethDay]).Pairwise (· ≤ ·) := by decide +kernel
  have hchild : oldSource.child "c1" = some oldChild := rfl
  obtain ⟨hok, herror⟩ :=
    cooldown_by_last_display hsupported hordered hchild oldSource_enough .standard false
  cases hrun : run oldSource (storeAfter {} oneDisplay) "c1" twentiethDay with
  | error f =>
    exfalso
    rcases herror f hrun with h | h
    · exact oldSource_signals f h
    · exact oldSource_stats f h
  | ok found =>
    obtain ⟨r, store'⟩ := found
    refine ⟨r, store', rfl, ?_⟩
    intro c hc hpair
    rw [(hok r store' hrun).2, List.mem_filter, hpair] at hc
    have hrests : restsBy oneDisplay twentiethDay ("goal_stalled", "c1") = true := by
      decide +kernel
    rw [hrests] at hc
    exact absurd hc.2 (by decide)

end Engine

end MomentInsights
