-- How long nothing has happened. A stall is a hit when the good moments of two weeks have
-- stopped, a slipping routine when its own have, and both count the days since the newest
-- of them. These are the days for which it has been quiet, and no fewer.
import MomentInsights.Proofs.EventOrder
import MomentInsights.Proofs.Nearest

namespace MomentInsights

open Instant (elapsedDays)

/-! ## Days without an event -/

/-- Where a window starts: so many days before `now`, or at the start of time. -/
theorem Window.start_micros (w : Window) (now : Instant) :
    (w.start now).micros = now.micros - w.days * Duration.dayMicros :=
  now.back_days w.days

/-- What lies in a window is not long ago. -/
theorem Window.lt_longSpan {w : Window} {t now : Instant} (h : w.start now ≤ t) :
    now.micros < t.micros + Instant.longSpan := by
  have hstart := w.start_micros now
  have hdays : w.days ≤ 30 := by cases w <;> decide
  have hlength : w.days * Duration.dayMicros ≤ 30 * Duration.dayMicros :=
    Nat.mul_le_mul_right _ hdays
  have hlong : 30 * Duration.dayMicros < Instant.longSpan := by decide
  change (w.start now).micros ≤ t.micros at h
  omega

/-- None of the events lies in the last days up to `now`, the ends of these days apart. -/
def QuietFor (days : Nat) (now : Instant) (es : List Event) : Prop :=
  ∀ e ∈ es, e.time ≤ now → e.time.micros + days * Duration.dayMicros ≤ now.micros

/-- The last of the events up to `now`. It is one of the last two weeks. -/
structure Latest (es : List Event) (now : Instant) (newest : Event) : Prop where
  mem : newest ∈ es
  recent : Window.fortnight.start now ≤ newest.time
  past : newest.time ≤ now
  latest : ∀ e ∈ es, e.time ≤ now → e.time ≤ newest.time

section Latest

variable {es : List Event} {now : Instant} {newest : Event}

/-- It has been quiet for the days since the last event. -/
theorem Latest.quietFor_iff (h : Latest es now newest) (days : Nat) :
    QuietFor days now es ↔ days ≤ elapsedDays newest.time now := by
  rw [Instant.le_elapsedDays h.past]
  constructor
  · intro hquiet
    exact hquiet newest h.mem h.past
  · intro hdays e he hle
    have hbefore : e.time.micros ≤ newest.time.micros := h.latest e he hle
    omega

/-- There are never more of these days than the fortnight has. -/
theorem Latest.elapsedDays_le (h : Latest es now newest) : elapsedDays newest.time now ≤ 14 := by
  have hstart := Window.fortnight.start_micros now
  have hrecent : (Window.fortnight.start now).micros ≤ newest.time.micros := h.recent
  change (Window.fortnight.start now).micros = now.micros - 14 * Duration.dayMicros at hstart
  unfold elapsedDays
  rw [Nat.div_le_iff_le_mul (by decide)]
  omega

/-- There are as many when the last event lies at the very start of the fortnight. -/
theorem Latest.elapsedDays_eq (h : Latest es now newest) :
    elapsedDays newest.time now = 14 ↔
      newest.time.micros + 14 * Duration.dayMicros = now.micros := by
  have hstart := Window.fortnight.start_micros now
  have hrecent : (Window.fortnight.start now).micros ≤ newest.time.micros := h.recent
  change (Window.fortnight.start now).micros = now.micros - 14 * Duration.dayMicros at hstart
  rw [Nat.le_antisymm_iff, and_iff_right h.elapsedDays_le, Instant.le_elapsedDays h.past]
  constructor
  · intro hlong
    omega
  · intro hsame
    exact Nat.le_of_eq hsame

/-- The days since the last event, as the detectors count them. -/
theorem Latest.days_eq (h : Latest es now newest) :
    max 0 (Instant.wholeDaysBetween newest.time now) = (elapsedDays newest.time now : Int) := by
  rw [Instant.wholeDaysBetween_of_le h.past (Window.lt_longSpan h.recent)]
  exact Int.max_eq_right (Int.natCast_nonneg _)

end Latest

/-! ## The steps of a detector -/

/-- The detector gives this hit. -/
def Hits (x : Except Failure Signal) (s : Signal) : Prop := x = .ok s ∧ s.triggered = true

section Hits

variable {s : Signal} {rest : Except Failure Signal}

/-- A hit has passed every guard. -/
theorem hits_unless {kind : SignalKind} {reason : String} {c : Prop} [Decidable c] :
    Hits (if c then pure (Signal.miss kind reason) else rest) s ↔ ¬ c ∧ Hits rest s := by
  by_cases hc : c
  · rw [if_pos hc]
    constructor
    · rintro ⟨hmiss, hs⟩
      cases hmiss
      cases hs
    · intro h
      exact absurd hc h.1
  · rw [if_neg hc]
    exact (and_iff_right hc).symm

theorem hits_bind {α : Type} {x : Except Failure α} {f : α → Except Failure Signal} :
    Hits (x >>= f) s ↔ ∃ a, x = .ok a ∧ Hits (f a) s := by
  unfold Hits
  constructor
  · rintro ⟨h, hs⟩
    obtain ⟨a, ha, h⟩ := Outcome.bind_eq_ok.mp h
    exact ⟨a, ha, h, hs⟩
  · rintro ⟨a, ha, h, hs⟩
    exact ⟨Outcome.bind_eq_ok.mpr ⟨a, ha, h⟩, hs⟩

theorem hits_hit {kind : SignalKind} {confidence : Binary64} {es : List Event} {w : Window}
    {explanation : String} {details : SignalDetails} :
    Hits (pure (Signal.hit kind confidence es w explanation details)) s ↔
      Signal.hit kind confidence es w explanation details = s := by
  unfold Hits
  constructor
  · rintro ⟨h, -⟩
    exact Except.ok.inj h
  · rintro rfl
    exact ⟨rfl, rfl⟩

end Hits

/-! ## Stalls -/

/-- The good moments. -/
def goodMoments (es : List Event) : List Event := es.filter Event.isPositive

section Stalls

variable {g : Goal} {es : List Event} {now : Instant} {s : Signal}

/-- What a stall that is a hit rests on: a goal that is still open, enough good moments in
two weeks, and none of them, nor any later one, in the last days. -/
structure Stalls (g : Goal) (es : List Event) (now : Instant) (s : Signal) : Prop where
  active : g.isActive = true
  enough : minEvents ≤ (goodMoments (Timeline.within (Window.fortnight.start now) now es)).length
  quiet : ∀ e ∈ goodMoments es, e.time < now.back (Duration.days Detect.stalledDays)
  /-- The days that the signal counts are those since the last good moment. -/
  counted : ∃ newest, Latest (goodMoments es) now newest ∧
    s.details.daysSince = some (elapsedDays newest.time now : Int)

/-- The steps of a hit, in the order in which the detector takes them. -/
theorem goalStalled_steps {t : Timeline} (h : Hits (Detect.goalStalled g t) s) :
    g.isActive = true ∧ minEvents ≤ t.positiveFortnight.length ∧
      t.positivesSince (Duration.days Detect.stalledDays) = [] ∧
      ∃ newest, t.lastPositive = some newest ∧
        s.details.daysSince = some (max 0 (Instant.wholeDaysBetween newest.time t.now)) := by
  unfold Detect.goalStalled at h
  dsimp only at h
  obtain ⟨hactive, h⟩ := hits_unless.mp h
  obtain ⟨henough, h⟩ := hits_unless.mp h
  obtain ⟨hquiet, h⟩ := hits_unless.mp h
  refine ⟨by simpa using hactive, Nat.not_lt.mp henough, by simpa using hquiet, ?_⟩
  split at h
  · obtain ⟨hmiss, hs⟩ := h
    cases hmiss
    cases hs
  · rename_i newest hlast
    obtain ⟨progress, -, h⟩ := hits_bind.mp h
    cases hits_hit.mp h
    exact ⟨newest, hlast, rfl⟩

/-- A newest good moment before a stall lies in its two weeks. -/
theorem start_le_of_newest {newest : Event}
    (henough : minEvents ≤
      (goodMoments (Timeline.within (Window.fortnight.start now) now es)).length)
    (hmax : ∀ e ∈ goodMoments es, e.time ≤ newest.time) :
    Window.fortnight.start now ≤ newest.time := by
  obtain ⟨e, he⟩ := List.exists_mem_of_length_pos (Nat.lt_of_lt_of_le (by decide) henough)
  obtain ⟨hwithin, hgood⟩ := List.mem_filter.mp he
  obtain ⟨hmem, hwindow⟩ := List.mem_filter.mp hwithin
  have hstart : Window.fortnight.start now ≤ e.time :=
    of_decide_eq_true (Bool.and_eq_true_iff.mp hwindow).1
  exact Nat.le_trans hstart (hmax e (List.mem_filter.mpr ⟨hmem, hgood⟩))

theorem stalls_of_hit (h : Hits (Detect.goalStalled g (Timeline.ofEvents es now)) s) :
    Stalls g es now s := by
  obtain ⟨hactive, henough, hnone, newest, hlast, hcount⟩ := goalStalled_steps h
  have hquiet : ∀ e ∈ goodMoments es, e.time < now.back (Duration.days Detect.stalledDays) := by
    intro e he
    have hold := List.filter_eq_nil_iff.mp hnone e he
    exact Nat.not_le.mp fun hle => hold (decide_eq_true hle)
  have hnewest := newestOf_lastPositive (Timeline.ofEvents es now)
  rw [hlast] at hnewest
  cases hnewest with
  | some hmem hmax =>
    have hstart : Window.fortnight.start now ≤ newest.time := start_le_of_newest henough hmax
    have hpast : newest.time ≤ now := by
      have hback := now.back_days Detect.stalledDays
      have hcutoff : newest.time.micros < (now.back (Duration.days Detect.stalledDays)).micros :=
        hquiet newest hmem
      change newest.time.micros ≤ now.micros
      omega
    have hlatest : Latest (goodMoments es) now newest :=
      ⟨hmem, hstart, hpast, fun e he _ => hmax e he⟩
    refine ⟨hactive, henough, hquiet, newest, hlatest, ?_⟩
    change s.details.daysSince = some (max 0 (Instant.wholeDaysBetween newest.time now)) at hcount
    rw [hcount, hlatest.days_eq]

end Stalls

end MomentInsights
