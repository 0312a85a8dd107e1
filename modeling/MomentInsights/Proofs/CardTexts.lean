-- What a card says of quiet days. The cards of stalls and of slipping routines name the
-- days of the window that they cite, always fourteen, while the days for which it has been
-- quiet stand in the details of the signal and in no text of the card.
import MomentInsights.Proofs.FilledTexts
import MomentInsights.Proofs.RoutineAdvice

namespace MomentInsights

open Instant (elapsedDays)

/-! ## The line of a card -/

section Line

variable {s : Signal} {child : Child} {now : Instant} {c : Card}

theorem Window.days_plain (w : Window) : Plain (toString (w.days : Int)) := by
  unfold Plain
  cases w <;> decide +kernel

/-- A line whose only slot is for days names those of the window. -/
theorem Card.oneLiner_days (h : Card.ofSignal s child now = .ok c) (before after : String)
    (hbefore : Plain before) (hafter : Plain after)
    (hline : (Template.ofSignal s.kind).oneLiner =
      written [.say before, .slot .days, .say after]) :
    c.oneLiner = before ++ toString (s.evidence.window.days : Int) ++ after := by
  obtain ⟨args, hargs, hfilled⟩ := (Card.from_ofSignal h).oneLiner
  have hdays : (Variables.ofSignal s child).value .days =
      some (toString (s.evidence.window.days : Int)) := rfl
  have hfillable : Fillable (Variables.ofSignal s child).value
      [.say before, .slot .days, .say after] := by
    constructor
    · intro w hw
      rcases (by simpa using hw : w = before ∨ w = after) with rfl | rfl
      · exact hbefore
      · exact hafter
    · intro slot x hslot hx
      have hsame : slot = .days := by simpa using hslot
      rw [hsame, hdays] at hx
      cases hx
      exact s.evidence.window.days_plain
  rw [hfilled, hline, Variables.fill_args hargs hfillable]
  simp [written, Piece.filled, Piece.written, hdays, String.join]

end Line

section Cards

variable {g : Goal} {b : Behavior} {es : List Event} {now : Instant} {s : Signal}

/-- Every stall that is a hit has its card, and the card names two weeks. -/
theorem stalled_card (h : Detect.goalStalled g (Timeline.ofEvents es now) = .ok s)
    (hs : s.triggered = true) (child : Child) : ∃ c, Card.ofSignal s child now = .ok c ∧
      c.oneLiner = "No progress in the last 14 days." := by
  obtain ⟨hkind, hwindow⟩ := (Detect.goalStalled_gives h).of_hit hs
  obtain ⟨c, hc, -⟩ := (Detects.goalStalled h).card child now
  have hline := Card.oneLiner_days hc "No progress in the last " " days."
    (by unfold Plain; decide +kernel) (by unfold Plain; decide +kernel) (by rw [hkind]; rfl)
  rw [hwindow] at hline
  exact ⟨c, hc, hline.trans (by decide +kernel)⟩

/-- So does every slipping routine that is a hit. -/
theorem slipping_card (h : Detect.routineSlipping b (Timeline.ofEvents es now) = .ok s)
    (hs : s.triggered = true) (child : Child) : ∃ c, Card.ofSignal s child now = .ok c ∧
      c.oneLiner = "Last logged 14 days ago after being consistent." := by
  obtain ⟨hkind, hwindow⟩ := (Detect.routineSlipping_gives h).of_hit hs
  obtain ⟨c, hc, -⟩ := (Detects.routineSlipping h).card child now
  have hline := Card.oneLiner_days hc "Last logged " " days ago after being consistent."
    (by unfold Plain; decide +kernel) (by unfold Plain; decide +kernel) (by rw [hkind]; rfl)
  rw [hwindow] at hline
  exact ⟨c, hc, hline.trans (by decide +kernel)⟩

end Cards

/-! ## A line that is not true -/

theorem oldMoments_stall :
    ∃ s, Detect.goalStalled nearGoal (Timeline.ofEvents oldMoments twentiethDay) = .ok s ∧
      s.triggered = true := exists_hit (by decide +kernel)

/-- Ten days after the last good moments the card says that there were none in two weeks. -/
theorem stalled_card_untrue :
    ¬ ∀ (g : Goal) (es : List Event) (now : Instant) (s : Signal) (child : Child) (c : Card)
      (days : Nat), Detect.goalStalled g (Timeline.ofEvents es now) = .ok s → s.triggered = true →
        Card.ofSignal s child now = .ok c → c.oneLiner = s!"No progress in the last {days} days." →
          QuietFor days now (goodMoments es) := by
  intro htrue
  obtain ⟨s, hs, htriggered⟩ := oldMoments_stall
  obtain ⟨c, hc, hline⟩ := stalled_card hs htriggered oldChild
  have hquiet : QuietFor 14 twentiethDay (goodMoments oldMoments) :=
    htrue nearGoal oldMoments twentiethDay s oldChild c 14 hs htriggered hc
      (hline.trans (by decide +kernel))
  unfold QuietFor at hquiet
  revert hquiet
  decide +kernel

/-! ## What the cards say -/

/-- The cards of stalls and of slipping routines always say fourteen days. How long it has
been quiet stands in the details of the signal: the days since the last good moment, which
are the most days without one, and those since the last time the routine was logged. So a
card is right just when that last time lies fourteen days back, to the microsecond. -/
theorem quiet_cards_true_iff (es : List Event) (now : Instant) (child : Child) :
    (∀ (g : Goal) (s : Signal), Detect.goalStalled g (Timeline.ofEvents es now) = .ok s →
      s.triggered = true → ∃ c newest, Card.ofSignal s child now = .ok c ∧
        c.oneLiner = "No progress in the last 14 days." ∧
        Latest (goodMoments es) now newest ∧
        s.details.daysSince = some (Int.ofNat (elapsedDays newest.time now)) ∧
        (∀ days, QuietFor days now (goodMoments es) ↔ days ≤ elapsedDays newest.time now) ∧
        (QuietFor 14 now (goodMoments es) ↔
          newest.time.micros + 14 * Duration.dayMicros = now.micros)) ∧
      ∀ (b : Behavior) (s : Signal), Detect.routineSlipping b (Timeline.ofEvents es now) = .ok s →
        s.triggered = true → ∃ c newest, Card.ofSignal s child now = .ok c ∧
          c.oneLiner = "Last logged 14 days ago after being consistent." ∧
          Latest (logged b es) now newest ∧
          s.details.daysSince = some (Int.ofNat (elapsedDays newest.time now)) ∧
          (elapsedDays newest.time now = 14 ↔
            newest.time.micros + 14 * Duration.dayMicros = now.micros) := by
  constructor
  · intro g s h hs
    obtain ⟨c, hc, hline⟩ := stalled_card h hs child
    obtain ⟨newest, hlatest, hcounted⟩ := (stalls_of_hit ⟨h, hs⟩).counted
    refine ⟨c, newest, hc, hline, hlatest, hcounted, hlatest.quietFor_iff, ?_⟩
    rw [hlatest.quietFor_iff, ← hlatest.elapsedDays_eq]
    have hmost := hlatest.elapsedDays_le
    omega
  · intro b s h hs
    obtain ⟨c, hc, hline⟩ := slipping_card h hs child
    obtain ⟨-, newest, hlatest, hcounted⟩ := slips_of_hit ⟨h, hs⟩
    exact ⟨c, newest, hc, hline, hlatest, hcounted, hlatest.elapsedDays_eq⟩

/-- The card of the three moments, and that of the brushings. -/
theorem quiet_cards_true_iff_oldMoments :
    (∃ s c newest, Card.ofSignal s oldChild twentiethDay = .ok c ∧
      c.oneLiner = "No progress in the last 14 days." ∧
      Latest (goodMoments oldMoments) twentiethDay newest ∧
      s.details.daysSince = some (Int.ofNat (elapsedDays newest.time twentiethDay)) ∧
      (∀ days, QuietFor days twentiethDay (goodMoments oldMoments) ↔
        days ≤ elapsedDays newest.time twentiethDay) ∧
      (QuietFor 14 twentiethDay (goodMoments oldMoments) ↔
        newest.time.micros + 14 * Duration.dayMicros = twentiethDay.micros)) ∧
      ∃ s c newest, Card.ofSignal s oldChild twentiethDay = .ok c ∧
        c.oneLiner = "Last logged 14 days ago after being consistent." ∧
        Latest (logged brushing brushings) twentiethDay newest ∧
        s.details.daysSince = some (Int.ofNat (elapsedDays newest.time twentiethDay)) ∧
        (elapsedDays newest.time twentiethDay = 14 ↔
          newest.time.micros + 14 * Duration.dayMicros = twentiethDay.micros) := by
  constructor
  · obtain ⟨s, hs, htriggered⟩ := oldMoments_stall
    exact ⟨s, (quiet_cards_true_iff oldMoments twentiethDay oldChild).1 nearGoal s hs htriggered⟩
  · obtain ⟨s, hs, htriggered⟩ := hit_of_slips (by decide) brushings_form_and_slip.slips
    exact ⟨s, (quiet_cards_true_iff brushings twentiethDay oldChild).2 brushing s hs htriggered⟩

end MomentInsights
