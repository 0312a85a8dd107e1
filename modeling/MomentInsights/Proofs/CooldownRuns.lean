-- Runs of commands on a cooldown store. Whatever the commands are and whatever
-- times they name, each answer is the one that the map of the showings gives. A
-- store that seeds its text answers and stores the same as one that does not.
import MomentInsights.Proofs.CooldownMap

namespace MomentInsights

/-! ## Periods of whole days -/

namespace Duration

/-- Whole days need no rounding. -/
theorem rounded_whole (n : Int) : (Sum.mk n .zero).rounded = n := by
  have hone := Binary64.one_pos
  have hmul : (n * (Binary64.one : Int)).natAbs = n.natAbs * Binary64.one := by
    rw [Int.natAbs_mul, Int.natAbs_natCast]
  have hexact : Binary64.nearestEven (n.natAbs * Binary64.one) Binary64.one = n.natAbs := by
    unfold Binary64.nearestEven
    simp [hone]
  have hneg : n * (Binary64.one : Int) < 0 ↔ n < 0 := by
    constructor
    · intro h
      exact Int.lt_of_not_ge fun hn => by
        have := Int.mul_nonneg hn (Int.natCast_nonneg Binary64.one)
        omega
    · intro h
      exact Int.mul_neg_of_neg_of_pos h (by exact_mod_cast hone)
  simp only [Sum.rounded, Binary64.zero, Binary64.signedSteps, if_false, Int.natCast_zero,
    Int.add_zero, Bool.false_eq_true, hmul, hexact, decide_eq_true_eq, hneg]
  split <;> omega

theorem ofDays_whole {n : Int} {d : Duration} :
    ofDays (.whole n) = .ok d ↔ n.natAbs ≤ 999999999 ∧ d = ⟨n * dayMicros⟩ := by
  have hdays : (⟨n * dayMicros⟩ : Duration).wholeDays = n := by
    unfold wholeDays
    rw [Int.fdiv_eq_ediv_of_nonneg _ (by decide)]
    exact Int.mul_ediv_cancel n (by decide)
  have hsum : ofDays (.whole n) = checked ⟨n * dayMicros⟩ := by
    simp [ofDays, ofParts, Sum.plus, Part.micros, dayMicros, rounded_whole]
  rw [hsum, checked, bounded, hdays]
  split
  · rename_i hbits
    constructor
    · intro h
      cases h
    · rintro ⟨hn, -⟩
      omega
  · split
    · rename_i hn
      rw [Except.ok.injEq]
      exact ⟨fun h => ⟨hn, h.symm⟩, fun h => h.2.symm⟩
    · rename_i hn
      constructor
      · intro h
        cases h
      · rintro ⟨h, -⟩
        exact absurd h hn

/-- Whole days can be taken the other way. -/
theorem neg_of_ofDays {n : Int} {d : Duration} (h : ofDays (.whole n) = .ok d) :
    d.neg = .ok ⟨-d.micros⟩ := by
  obtain ⟨hn, rfl⟩ := ofDays_whole.mp h
  have hdays : (⟨-(n * dayMicros)⟩ : Duration).wholeDays = -n := by
    unfold wholeDays
    rw [Int.fdiv_eq_ediv_of_nonneg _ (by decide), ← Int.neg_mul]
    exact Int.mul_ediv_cancel (-n) (by decide)
  unfold neg bounded
  rw [hdays, Int.natAbs_neg, if_pos hn]

end Duration

namespace Cooldown

/-! ## Commands -/

inductive Command where
  | recordShown (templateId childId : String) (time : Instant)
  | recordMany (pairs : List (String × String)) (time : Instant)
  | clearChild (childId : String)
  | clearAll
  | invalidate
  | records
  | cooldownEnd (templateId childId : String)
  | isOnCooldown (templateId childId : String) (now : Timestamp)
  | active (now : Instant)

inductive Answer where
  | done
  | records (rs : List Record)
  | ends (time : Option Instant)
  | rests (answer : Bool)
  | active (rests : List Active)

namespace Store

/-- A store that was just made for the periods. -/
def fresh (p : Periods) (room : Room) (seeds : Bool) : Store := { periods := p, room, seeds }

/-- The answer of a read, and the store after it; a read that fails leaves the
store as it was. -/
def answered {α : Type} (s : Store) (wrap : α → Answer) :
    Except Failure (α × Store) → Except Failure Answer × Store
  | .ok (a, s') => (.ok (wrap a), s')
  | .error f => (.error f, s)

def perform (s : Store) : Command → Except Failure Answer × Store
  | .recordShown templateId childId time =>
    let (done, s) := s.recordShown templateId childId time
    (done.map fun _ => .done, s)
  | .recordMany pairs time =>
    let (done, s) := s.recordMany pairs time
    (done.map fun _ => .done, s)
  | .clearChild childId => s.answered (fun _ => .done) ((s.clearChild childId).map fun s => ((), s))
  | .clearAll => (.ok .done, s.clearAll)
  | .invalidate => (.ok .done, s.invalidate)
  | .records => s.answered .records s.records
  | .cooldownEnd templateId childId => s.answered .ends (s.cooldownEnd templateId childId)
  | .isOnCooldown templateId childId now =>
    let (rests, s) := s.isOnCooldown templateId childId now
    (rests.map .rests, s)
  | .active now => s.answered .active (s.active now)

/-- The store after the commands. -/
def after (s : Store) (commands : List Command) : Store :=
  commands.foldl (fun s c => (s.perform c).2) s

end Store

/-! ## What the map says -/

namespace Showings

def next (p : Periods) (m : Showings) : Command → Showings
  | .recordShown templateId childId time => m.record p [(templateId, childId)] time
  | .recordMany pairs time => m.record p pairs time
  | .clearChild childId => m.clearChild childId
  | .clearAll => empty
  | _ => m

/-- The map after the commands. -/
def after (p : Periods) (commands : List Command) : Showings :=
  commands.foldl (next p) empty

/-- The answer to the command is the one that the map gives. A rest is asked
for at a time; where nothing was shown the time does not matter. -/
def Answers (p : Periods) (m : Showings) : Command → Except Failure Answer → Prop
  | .records, a => ∃ rs, a = .ok (.records rs) ∧ Lists m rs
  | .cooldownEnd templateId childId, a => a = .ok (.ends (m.endOf p (templateId, childId)))
  | .isOnCooldown templateId childId now, a =>
    a = match m.endOf p (templateId, childId) with
      | none => .ok (.rests false)
      | some ends => now.utc.map fun now => .rests (now < ends)
  | .active now, a => ∃ rests, a = .ok (.active rests) ∧ ListsActive p m now rests
  | _, a => a = .ok .done

end Showings

/-! ## One command -/

namespace Store

variable {p : Periods} {s : Store} {rs : List Record} {m : Showings}

/-- A command leaves a store that holds what the map becomes, and answers what
the map says. -/
theorem Holds.perform (h : Holds p s rs m) (c : Command) :
    (∃ rs', Holds p (s.perform c).2 rs' (m.next p c)) ∧ m.Answers p c (s.perform c).1 := by
  cases c with
  | recordShown templateId childId time =>
    refine ⟨h.recordMany [(templateId, childId)] time, ?_⟩
    simp [Store.perform, Showings.Answers, recordShown, h.recordMany_eq, Except.map]
  | recordMany pairs time =>
    refine ⟨h.recordMany pairs time, ?_⟩
    simp [Store.perform, Showings.Answers, h.recordMany_eq, Except.map]
  | clearChild childId =>
    simp only [Store.perform, h.clearChild_eq, Except.map, answered, Showings.Answers, and_true]
    exact ⟨_, h.clearChild childId⟩
  | clearAll => exact ⟨⟨_, h.clearAll⟩, rfl⟩
  | invalidate => exact ⟨⟨_, h.invalidate⟩, rfl⟩
  | records =>
    simp only [Store.perform, h.records, answered]
    exact ⟨⟨_, h.cached⟩, _, rfl, h.lists⟩
  | cooldownEnd templateId childId =>
    simp only [Store.perform, h.cooldownEnd, answered]
    exact ⟨⟨_, h.cached⟩, rfl⟩
  | isOnCooldown templateId childId now =>
    simp only [Store.perform, h.isOnCooldown]
    refine ⟨⟨_, h.cached⟩, ?_⟩
    simp only [Showings.Answers]
    cases m.endOf p (templateId, childId) with
    | none => rfl
    | some ends =>
      simp only
      cases now.utc <;> rfl
  | active now =>
    simp only [Store.perform, h.active, answered]
    exact ⟨⟨_, h.cached⟩, _, rfl, h.lists.active h.ends now⟩

theorem Holds.seeded (h : Holds p s rs m) (seeds : Bool) : Holds p { s with seeds } rs m :=
  { h with periods := h.periods }

/-- Whether a store seeds its text does not show. -/
theorem Holds.perform_seeded (h : Holds p s rs m) (seeds : Bool) (c : Command) :
    ({ s with seeds } : Store).perform c =
      ((s.perform c).1, { (s.perform c).2 with seeds }) := by
  have h' := h.seeded seeds
  have hsave (pairs : List (String × String)) (time : Instant) :
      ({ s with seeds } : Store).recordMany pairs time =
        ((s.recordMany pairs time).1, { (s.recordMany pairs time).2 with seeds }) := by
    rw [h.recordMany_eq, h'.recordMany_eq]
    split <;> rfl
  cases c with
  | recordShown templateId childId time => simp [Store.perform, recordShown, hsave]
  | recordMany pairs time => simp [Store.perform, hsave]
  | clearChild childId =>
    simp [Store.perform, h.clearChild_eq, h'.clearChild_eq, Except.map, answered, Store.save]
  | clearAll => rfl
  | invalidate => rfl
  | records => simp [Store.perform, h.records, h'.records, answered]
  | cooldownEnd templateId childId =>
    simp [Store.perform, h.cooldownEnd, h'.cooldownEnd, answered]
  | isOnCooldown templateId childId now =>
    simp [Store.perform, h.isOnCooldown, h'.isOnCooldown]
  | active now => simp [Store.perform, h.active, h'.active, answered]

/-! ## Runs -/

theorem Holds.after (h : Holds p s rs m) (commands : List Command) :
    ∃ rs', Holds p (s.after commands) rs' (commands.foldl (Showings.next p) m) := by
  induction commands generalizing s rs m with
  | nil => exact ⟨rs, h⟩
  | cons c commands ih =>
    obtain ⟨rs', h'⟩ := (h.perform c).1
    exact ih h'

theorem Holds.after_seeded (h : Holds p s rs m) (seeds : Bool) (commands : List Command) :
    ({ s with seeds } : Store).after commands = { s.after commands with seeds } := by
  induction commands generalizing s rs m with
  | nil => rfl
  | cons c commands ih =>
    obtain ⟨rs', h'⟩ := (h.perform c).1
    have hstep : ({ s with seeds } : Store).after (c :: commands) =
        ({ (s.perform c).2 with seeds } : Store).after commands := by
      unfold Store.after
      rw [List.foldl_cons, h.perform_seeded]
    rw [hstep, ih h']
    rfl

theorem holds_fresh (hback : p.retention.neg = .ok ⟨-p.retention.micros⟩) (room : Room)
    (seeds : Bool) : Holds p (fresh p room seeds) [] Showings.empty :=
  holds_empty rfl hback rfl rfl

end Store

/-- Of a store that was made without a text, every command of every run is
answered from the map, every rest in the map has an end, and what is answered and
stored does not depend on the seeding. -/
theorem run_follows_map {p : Periods} {retentionDays : Int}
    (hretention : Duration.ofDays (.whole retentionDays) = .ok p.retention)
    (room : Room) (before : List Command) (c : Command) :
    let m := Showings.after p before
    let plain := ((Store.fresh p room false).after before).perform c
    let seeded := ((Store.fresh p room true).after before).perform c
    m.Ends p ∧ m.Answers p c plain.1 ∧ seeded.1 = plain.1 ∧ seeded.2.text = plain.2.text := by
  intro m plain seeded
  have hback := Duration.neg_of_ofDays hretention
  have hfresh := Store.holds_fresh hback room false
  obtain ⟨rs, hbefore⟩ := hfresh.after before
  have hseeded : seeded = (plain.1, { plain.2 with seeds := true }) := by
    have hafter : (Store.fresh p room true).after before =
        { (Store.fresh p room false).after before with seeds := true } := hfresh.after_seeded true before
    rw [← hbefore.perform_seeded true c, ← hafter]
  refine ⟨hbefore.ends, (hbefore.perform c).2, ?_, ?_⟩ <;> rw [hseeded]

theorem run_follows_map_standard :
    Duration.ofDays (.whole 30) = .ok Periods.standard.retention ∧
      (((Store.fresh .standard .standard false).after
        [.recordMany [("goalStalled", "c1"), ("goalStalled", "c2")] Instant.epoch,
          .clearChild "c2"]).perform (.cooldownEnd "goalStalled" "c1")).1 =
        .ok (.ends (Instant.epoch.add? (Duration.days 3))) := by
  have hthirty : Duration.ofDays (.whole 30) = .ok Periods.standard.retention :=
    Duration.ofDays_whole.mpr (by decide)
  have h := run_follows_map hthirty .standard
    [.recordMany [("goalStalled", "c1"), ("goalStalled", "c2")] Instant.epoch, .clearChild "c2"]
    (.cooldownEnd "goalStalled" "c1")
  exact ⟨hthirty, h.2.1⟩

end Cooldown

end MomentInsights
