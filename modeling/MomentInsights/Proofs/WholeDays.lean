-- Whole days between two times. The seconds that they are taken from are rounded, and on
-- spans of less than `2 ^ 33` seconds this does not show: a day counts just when it has fully
-- elapsed, forward or back. Clocks with offsets count as the instants that they show.
import MomentInsights.Proofs.Nearest
import MomentInsights.Proofs.Outcome
import MomentInsights.Time.Timestamp

namespace MomentInsights

/-! ## What a clock shows -/

/-- The clock is ahead of the instant by its offset, and a clock without one shows UTC. -/
def Timestamp.Shows (t : Timestamp) (u : Instant) : Prop :=
  (t.wall.micros : Int) = u.micros + (t.offset.getD .zero).micros

instance (t : Timestamp) (u : Instant) : Decidable (t.Shows u) :=
  inferInstanceAs (Decidable (_ = _))

theorem Instant.eq_of_micros {a b : Instant} (h : (a.micros : Int) = b.micros) : a = b := by
  obtain ⟨m, hm⟩ := a
  obtain ⟨n, hn⟩ := b
  obtain rfl : m = n := Int.ofNat.inj h
  rfl

theorem Timestamp.Shows.utc {t : Timestamp} {u : Instant} (h : t.Shows u) : t.utc = .ok u := by
  obtain ⟨wall, offset⟩ := t
  unfold Shows at h
  cases offset with
  | none =>
    have hsame : wall = u := by
      apply Instant.eq_of_micros
      simpa [Duration.zero] using h
    rw [hsame]
    rfl
  | some d =>
    dsimp only [Option.getD_some] at h
    have hmoved : wall.add? ⟨-d.micros⟩ = some u := by
      apply Instant.ofMicros?_eq_some.mpr
      dsimp only
      omega
    unfold Timestamp.utc
    dsimp only
    rw [hmoved]

theorem Timestamp.wholeDaysBetween_of_shows {a b : Timestamp} {s t : Instant} (ha : a.Shows s)
    (hb : b.Shows t) : a.wholeDaysBetween b = .ok (s.wholeDaysBetween t) := by
  unfold wholeDaysBetween
  rw [hb.utc, Outcome.ok_bind, ha.utc, Outcome.ok_bind]
  rfl

/-! ## Days that have elapsed -/

/-- A positive number is reached by a quotient without its fraction just when the dividend
reaches that many divisors. -/
theorem le_tdiv_iff {n k d : Int} (hk : 0 < k) (hd : 0 < d) : k ≤ n.tdiv d ↔ k * d ≤ n := by
  rcases Int.lt_or_le n 0 with hneg | hnonneg
  -- Below zero the quotient is cut upward, but never past zero.
  · have hbelow : n.tdiv d ≤ 0 := by
      have hback := Int.tdiv_nonneg (Int.neg_nonneg_of_nonpos (Int.le_of_lt hneg)) (Int.le_of_lt hd)
      rw [Int.neg_tdiv] at hback
      omega
    have hpos : 0 < k * d := Int.mul_pos hk hd
    constructor <;> intro h <;> omega
  · rw [Int.tdiv_eq_ediv_of_nonneg hnonneg]
    exact Int.le_ediv_iff_mul_le hd

namespace Instant

open Duration (dayMicros secondMicros)

/-- The days are those that have fully elapsed, counted forward from `s` to `t` and counted as
negative from `t` back to `s`. -/
structure CountsElapsed (s t : Instant) (days : Int) : Prop where
  forward : ∀ k : Nat, 0 < k → ((k : Int) ≤ days ↔ s.micros + k * dayMicros ≤ t.micros)
  back : ∀ k : Nat, 0 < k → (days ≤ -(k : Int) ↔ t.micros + k * dayMicros ≤ s.micros)

theorem spanTo_swap (s t : Instant) : (t.spanTo s).micros = -(s.spanTo t).micros := by
  unfold spanTo
  dsimp only
  omega

theorem le_tdiv_spanTo (s t : Instant) {k : Nat} (hk : 0 < k) :
    (k : Int) ≤ (s.spanTo t).micros.tdiv dayMicros ↔ s.micros + k * dayMicros ≤ t.micros := by
  rw [le_tdiv_iff (by omega) (by decide), ← Int.natCast_mul]
  unfold spanTo
  dsimp only
  omega

theorem countsElapsed_tdiv (s t : Instant) :
    CountsElapsed s t ((s.spanTo t).micros.tdiv dayMicros) where
  forward k hk := le_tdiv_spanTo s t hk
  back k hk := by
    have hback := le_tdiv_spanTo t s hk
    rw [spanTo_swap, Int.neg_tdiv] at hback
    omega

/-- On spans of less than `2 ^ 33` seconds the whole days are the microseconds over those of a
day, truncated toward zero, though the seconds in between are rounded. So the days back are
those forward, negated, and no day counts before it has fully elapsed. It is the same for
all clocks that show the two instants, whatever their offsets. -/
theorem elapsed_days_exact {s t : Instant}
    (hshort : ((t.micros : Int) - s.micros).natAbs < 2 ^ (33 : Nat) * secondMicros) :
    wholeDaysBetween s t = ((t.micros : Int) - s.micros).tdiv dayMicros ∧
      wholeDaysBetween t s = -wholeDaysBetween s t ∧
      CountsElapsed s t (wholeDaysBetween s t) ∧
      ∀ a b : Timestamp, a.Shows s → b.Shows t →
        a.wholeDaysBetween b = .ok (wholeDaysBetween s t) := by
  have hforward := wholeDaysBetween_eq (a := s) (b := t) hshort
  have hback : wholeDaysBetween t s = (t.spanTo s).micros.tdiv dayMicros := by
    apply wholeDaysBetween_eq
    rw [spanTo_swap, Int.natAbs_neg]
    exact hshort
  refine ⟨hforward, ?_, ?_, fun a b ha hb => Timestamp.wholeDaysBetween_of_shows ha hb⟩
  · rw [hback, hforward, spanTo_swap, Int.neg_tdiv]
  · rw [hforward]
    exact countsElapsed_tdiv s t

/-- A microsecond short of 99420 days after the start of time, close to `2 ^ 33` seconds. -/
def shortOfDay : Instant := ⟨99420 * dayMicros - 1, by decide⟩

/-- The start of time on a clock five and a half hours ahead. -/
def firstAhead : Timestamp := ⟨⟨19800000000, by decide⟩, some ⟨19800000000⟩⟩

theorem elapsed_days_exact_shortOfDay :
    wholeDaysBetween first shortOfDay = 99419 ∧ wholeDaysBetween shortOfDay first = -99419 ∧
      ¬ first.micros + 99420 * dayMicros ≤ shortOfDay.micros ∧
      firstAhead.wholeDaysBetween ⟨shortOfDay, none⟩ = .ok 99419 := by
  obtain ⟨hdays, hswap, helapsed, hclocks⟩ :=
    @elapsed_days_exact first shortOfDay (by decide +kernel)
  have hdays : wholeDaysBetween first shortOfDay = 99419 := hdays.trans (by decide +kernel)
  have hclock := hclocks firstAhead ⟨shortOfDay, none⟩ (by decide +kernel) (by decide +kernel)
  rw [hdays] at hswap helapsed hclock
  have hmissing := (helapsed.forward 99420 (by decide)).not.mp (by decide)
  exact ⟨hdays, hswap, hmissing, hclock⟩

/-- Twice as far apart, a microsecond is rounded away and a day counts that has not elapsed. -/
example : wholeDaysBetween first ⟨198842 * dayMicros - 1, by decide⟩ = 198842 := by
  decide +kernel

end Instant

end MomentInsights
