-- What the hits of the detectors rest on: which events each cites, how many there
-- were at least, what it tells of its goal or routine, and that a card can be written
-- for it.
import MomentInsights.Card.Build
import MomentInsights.Proofs.Rounding
import MomentInsights.Signal.Detect

namespace MomentInsights

/-- A signal of the kind. If it is a hit, it cites the events, and there was
enough to go by; whatever progress it tells has a percentage. -/
structure Detected (kind : SignalKind) (es : List Event) (enough : Prop) (s : Signal) : Prop where
  kind_eq : s.kind = kind
  cites : s.triggered = true → s.evidence.eventIds = es.map (·.id)
  enough : s.triggered = true → enough
  readable : ∀ p, s.details.progress = some p → ∃ text, Variables.percentage p = .ok text

/-- What a detector gives: a miss, or a hit that cites the events over the window,
with details that `told` holds of. -/
inductive Gives (kind : SignalKind) (es : List Event) (w : Window) (told : SignalDetails → Prop) :
    Signal → Prop where
  | miss (reason : String) : Gives kind es w told (Signal.miss kind reason)
  | hit {confidence : Binary64} {explanation : String} {details : SignalDetails}
    (h : told details) : Gives kind es w told (Signal.hit kind confidence es w explanation details)

variable {kind : SignalKind} {es : List Event} {w : Window} {told : SignalDetails → Prop}

/-- A detector that gives up early gives a miss; otherwise the rest of it decides. -/
theorem gives_unless {c : Prop} [Decidable c] {reason : String} {rest : Except Failure Signal}
    {s : Signal} (h : (if c then pure (Signal.miss kind reason) else rest) = .ok s)
    (hrest : ¬ c → rest = .ok s → Gives kind es w told s) : Gives kind es w told s := by
  split at h
  · cases h
    exact .miss reason
  · rename_i hc
    exact hrest hc h

theorem Gives.of_hit {s : Signal} (h : Gives kind es w told s) (hs : s.triggered = true) :
    s.kind = kind ∧ s.evidence.window = w := by
  cases h with
  | miss reason => cases hs
  | hit _ => exact ⟨rfl, rfl⟩

theorem Gives.told_of_hit {s : Signal} (h : Gives kind es w told s) (hs : s.triggered = true) :
    told s.details := by
  cases h with
  | miss reason => cases hs
  | hit htold => exact htold

theorem Gives.detected {enough : Prop} {s : Signal} (h : Gives kind es w told s)
    (henough : ∀ d, told d → enough)
    (hread : ∀ d, told d → ∀ p, d.progress = some p → ∃ text, Variables.percentage p = .ok text) :
    Detected kind es enough s := by
  cases h with
  | miss reason =>
    refine ⟨rfl, ?_, ?_, ?_⟩
    · intro h
      cases h
    · intro h
      cases h
    · intro p hp
      cases hp
  | hit htold => exact ⟨rfl, fun _ => rfl, fun _ => henough _ htold, hread _ htold⟩

/-- The details of a hit on a goal. -/
structure TellsGoal (g : Goal) (d : SignalDetails) : Prop where
  goalId : d.goalId = some g.id
  behaviorId : d.behaviorId = none
  progress : ∃ x, g.progress = .ok x ∧ d.progress = some (.real x)

/-- The details of a hit on a routine. -/
structure TellsRoutine (b : Behavior) (d : SignalDetails) : Prop where
  goalId : d.goalId = none
  behaviorId : d.behaviorId = some b.id
  progress : d.progress = none

theorem TellsGoal.readable {g : Goal} {d : SignalDetails} (h : TellsGoal g d) :
    ∀ p, d.progress = some p → ∃ text, Variables.percentage p = .ok text := by
  intro p hp
  obtain ⟨x, hx, hprogress⟩ := h.progress
  rw [hprogress] at hp
  cases hp
  obtain ⟨steps, hle, rfl⟩ := Goal.progress_finite hx
  exact Variables.percentage_finite hle

theorem readable_of_none {d : SignalDetails} (h : d.progress = none) :
    ∀ p, d.progress = some p → ∃ text, Variables.percentage p = .ok text := by
  intro p hp
  rw [h] at hp
  cases hp

namespace Detect

variable {g : Goal} {b : Behavior} {t : Timeline} {s : Signal}

/-- The guard counts two weeks, and what is cited is the last week only. -/
theorem goalAtRisk_gives (h : goalAtRisk g t = .ok s) :
    Gives .goalAtRisk t.positiveWeek .week
      (fun d => minEventsAtRisk ≤ t.positiveFortnight.length ∧ TellsGoal g d) s := by
  unfold goalAtRisk at h
  dsimp only at h
  split at h
  · cases h
    exact .miss _
  · refine gives_unless h fun _ h => ?_
    refine gives_unless h fun hfound h => ?_
    refine gives_unless h fun _ h => ?_
    obtain ⟨paceNeeded, -, h⟩ := Outcome.bind_eq_ok.mp h
    obtain ⟨pace, -, h⟩ := Outcome.bind_eq_ok.mp h
    refine gives_unless h fun _ h => ?_
    obtain ⟨share, -, h⟩ := Outcome.bind_eq_ok.mp h
    obtain ⟨progress, hprogress, h⟩ := Outcome.bind_eq_ok.mp h
    cases h
    exact .hit ⟨by omega, rfl, rfl, progress, hprogress, rfl⟩

theorem goalStalled_gives (h : goalStalled g t = .ok s) :
    Gives .goalStalled t.positiveFortnight .fortnight
      (fun d => minEvents ≤ t.positiveFortnight.length ∧ TellsGoal g d) s := by
  unfold goalStalled at h
  dsimp only at h
  refine gives_unless h fun _ h => ?_
  refine gives_unless h fun hfound h => ?_
  refine gives_unless h fun _ h => ?_
  split at h
  · cases h
    exact .miss _
  · obtain ⟨progress, hprogress, h⟩ := Outcome.bind_eq_ok.mp h
    cases h
    exact .hit ⟨by omega, rfl, rfl, progress, hprogress, rfl⟩

theorem routineForming_gives (b : Behavior) (t : Timeline) :
    Gives .routineForming (t.behaviorWeek b.id) .week
      (fun d => formingEvents ≤ (t.behaviorWeek b.id).length ∧ TellsRoutine b d)
      (routineForming b t) := by
  unfold routineForming
  dsimp only
  split
  · exact .miss _
  · split
    · exact .miss _
    · split
      · exact .miss _
      · rename_i hrecent
        split
        · exact .miss _
        · exact .hit ⟨by omega, rfl, rfl, rfl⟩

theorem routineSlipping_gives (h : routineSlipping b t = .ok s) :
    Gives .routineSlipping (newestFirst (t.behaviorFortnight b.id)) .fortnight
      (fun d => minEvents ≤ (newestFirst (t.behaviorFortnight b.id)).length ∧ TellsRoutine b d)
      s := by
  unfold routineSlipping at h
  dsimp only at h
  refine gives_unless h fun _ h => ?_
  refine gives_unless h fun hhistory h => ?_
  refine gives_unless h fun _ h => ?_
  obtain ⟨olderRate, -, h⟩ := Outcome.bind_eq_ok.mp h
  obtain ⟨recentRate, -, h⟩ := Outcome.bind_eq_ok.mp h
  refine gives_unless h fun _ h => ?_
  refine gives_unless h fun _ h => ?_
  cases h
  exact .hit ⟨by omega, rfl, rfl, rfl⟩

theorem highChallengeWeek_gives (h : highChallengeWeek t = .ok s) :
    Gives .highChallengeWeek (t.challengesWeek ++ t.positiveWeek) .week
      (fun d => minEvents ≤ (t.challengesWeek ++ t.positiveWeek).length ∧
        d.entityId = none ∧ d.progress = none) s := by
  unfold highChallengeWeek at h
  dsimp only at h
  refine gives_unless h fun htotal h => ?_
  have henough : minEvents ≤ (t.challengesWeek ++ t.positiveWeek).length := by
    rw [List.length_append]
    omega
  split at h
  · rename_i hnone
    rw [List.isEmpty_iff.mp hnone, List.append_nil] at henough ⊢
    refine gives_unless h fun _ h => ?_
    cases h
    exact .hit ⟨henough, rfl, rfl⟩
  · obtain ⟨ratio, -, h⟩ := Outcome.bind_eq_ok.mp h
    refine gives_unless h fun _ h => ?_
    cases h
    exact .hit ⟨henough, rfl, rfl⟩

theorem goalAtRisk_detected (h : goalAtRisk g t = .ok s) :
    Detected .goalAtRisk t.positiveWeek (minEventsAtRisk ≤ t.positiveFortnight.length) s :=
  (goalAtRisk_gives h).detected (fun _ hd => hd.1) (fun _ hd => hd.2.readable)

theorem goalStalled_detected (h : goalStalled g t = .ok s) :
    Detected .goalStalled t.positiveFortnight (minEvents ≤ t.positiveFortnight.length) s :=
  (goalStalled_gives h).detected (fun _ hd => hd.1) (fun _ hd => hd.2.readable)

theorem routineForming_detected (b : Behavior) (t : Timeline) :
    Detected .routineForming (t.behaviorWeek b.id) (formingEvents ≤ (t.behaviorWeek b.id).length)
      (routineForming b t) :=
  (routineForming_gives b t).detected (fun _ hd => hd.1)
    (fun _ hd => readable_of_none hd.2.progress)

theorem routineSlipping_detected (h : routineSlipping b t = .ok s) :
    Detected .routineSlipping (newestFirst (t.behaviorFortnight b.id))
      (minEvents ≤ (newestFirst (t.behaviorFortnight b.id)).length) s :=
  (routineSlipping_gives h).detected (fun _ hd => hd.1)
    (fun _ hd => readable_of_none hd.2.progress)

theorem highChallengeWeek_detected (h : highChallengeWeek t = .ok s) :
    Detected .highChallengeWeek (t.challengesWeek ++ t.positiveWeek)
      (minEvents ≤ (t.challengesWeek ++ t.positiveWeek).length) s :=
  (highChallengeWeek_gives h).detected (fun _ hd => hd.1) (fun _ hd => readable_of_none hd.2.2)

/-! ## The two signals of a goal and of a routine -/

section Pairs

variable {signals : List Signal}

theorem ofGoal_ok (h : ofGoal t g = .ok signals) :
    ∃ risk stalled, goalAtRisk g t = .ok risk ∧ goalStalled g t = .ok stalled ∧
      signals = [risk, stalled] ∧ risk.kind = .goalAtRisk ∧ stalled.kind = .goalStalled := by
  obtain ⟨risk, hrisk, h⟩ := Outcome.bind_eq_ok.mp h
  obtain ⟨stalled, hstalled, h⟩ := Outcome.bind_eq_ok.mp h
  cases h
  exact ⟨risk, stalled, hrisk, hstalled, rfl, (goalAtRisk_detected hrisk).kind_eq,
    (goalStalled_detected hstalled).kind_eq⟩

theorem ofRoutine_ok (h : ofRoutine t b = .ok signals) :
    ∃ slipping, routineSlipping b t = .ok slipping ∧
      signals = [routineForming b t, slipping] ∧
      (routineForming b t).kind = .routineForming ∧ slipping.kind = .routineSlipping := by
  obtain ⟨slipping, hslipping, h⟩ := Outcome.bind_eq_ok.mp h
  cases h
  exact ⟨slipping, hslipping, rfl, (routineForming_detected b t).kind_eq,
    (routineSlipping_detected hslipping).kind_eq⟩

theorem kind_of_ofGoal (h : ofGoal t g = .ok signals) :
    ∀ s ∈ signals, s.kind = .goalAtRisk ∨ s.kind = .goalStalled := by
  intro s hs
  obtain ⟨risk, stalled, -, -, rfl, hrisk, hstalled⟩ := ofGoal_ok h
  rcases List.mem_pair.mp hs with rfl | rfl
  · exact Or.inl hrisk
  · exact Or.inr hstalled

theorem kind_of_ofRoutine (h : ofRoutine t b = .ok signals) :
    ∀ s ∈ signals, s.kind = .routineForming ∨ s.kind = .routineSlipping := by
  intro s hs
  obtain ⟨slipping, -, rfl, hforming, hslipping⟩ := ofRoutine_ok h
  rcases List.mem_pair.mp hs with rfl | rfl
  · exact Or.inl hforming
  · exact Or.inr hslipping

end Pairs

end Detect

/-! ## All signals -/

/-- One of the five detectors gives the signal. -/
inductive Detects (t : Timeline) : Signal → Prop where
  | goalAtRisk {g : Goal} {s : Signal} (h : Detect.goalAtRisk g t = .ok s) : Detects t s
  | goalStalled {g : Goal} {s : Signal} (h : Detect.goalStalled g t = .ok s) : Detects t s
  | routineForming (b : Behavior) : Detects t (Detect.routineForming b t)
  | routineSlipping {b : Behavior} {s : Signal} (h : Detect.routineSlipping b t = .ok s) :
    Detects t s
  | highChallengeWeek {s : Signal} (h : Detect.highChallengeWeek t = .ok s) : Detects t s

/-- The detector of the kind gives the signal, for one of the goals or routines. -/
def FoundAs (goals : List Goal) (routines : List Behavior) (t : Timeline) (s : Signal) :
    SignalKind → Prop
  | .goalAtRisk => ∃ g ∈ goals, Detect.goalAtRisk g t = .ok s
  | .goalStalled => ∃ g ∈ goals, Detect.goalStalled g t = .ok s
  | .routineForming => ∃ b ∈ routines, Detect.routineForming b t = s
  | .routineSlipping => ∃ b ∈ routines, Detect.routineSlipping b t = .ok s
  | .highChallengeWeek => Detect.highChallengeWeek t = .ok s

section All

variable {goals : List Goal} {routines : List Behavior} {t : Timeline} {signals : List Signal}

theorem foundAs_of_all (h : Detect.all goals routines t = .ok signals) :
    ∀ s ∈ signals, FoundAs (Goal.activeOnly goals) routines t s s.kind := by
  intro s hs
  unfold Detect.all at h
  obtain ⟨ofGoals, hgoals, h⟩ := Outcome.bind_eq_ok.mp h
  obtain ⟨ofRoutines, hroutines, h⟩ := Outcome.bind_eq_ok.mp h
  obtain ⟨week, hweek, h⟩ := Outcome.bind_eq_ok.mp h
  cases h
  rw [List.mem_append, List.mem_append, List.mem_flatten, List.mem_flatten, List.mem_singleton] at hs
  rcases hs with (⟨pair, hpair, hs⟩ | ⟨pair, hpair, hs⟩) | rfl
  · obtain ⟨g, hg, hofGoal⟩ := Outcome.exists_of_mem_mapM hgoals hpair
    obtain ⟨risk, stalled, hrisk, hstalled, rfl, hkind, hkind'⟩ := Detect.ofGoal_ok hofGoal
    rcases List.mem_pair.mp hs with rfl | rfl
    · rw [hkind]
      exact ⟨g, hg, hrisk⟩
    · rw [hkind']
      exact ⟨g, hg, hstalled⟩
  · obtain ⟨b, hb, hofRoutine⟩ := Outcome.exists_of_mem_mapM hroutines hpair
    obtain ⟨slipping, hslipping, rfl, hkind, hkind'⟩ := Detect.ofRoutine_ok hofRoutine
    rcases List.mem_pair.mp hs with rfl | rfl
    · rw [hkind]
      exact ⟨b, hb, rfl⟩
    · rw [hkind']
      exact ⟨b, hb, hslipping⟩
  · rw [(Detect.highChallengeWeek_detected hweek).kind_eq]
    exact hweek

theorem detects_of_all (h : Detect.all goals routines t = .ok signals) :
    ∀ s ∈ signals, Detects t s := by
  intro s hs
  have hfound := foundAs_of_all h s hs
  cases hkind : s.kind <;> rw [hkind] at hfound
  · obtain ⟨g, -, hg⟩ := hfound
    exact .goalAtRisk hg
  · obtain ⟨g, -, hg⟩ := hfound
    exact .goalStalled hg
  · obtain ⟨b, -, rfl⟩ := hfound
    exact .routineForming b
  · obtain ⟨b, -, hb⟩ := hfound
    exact .routineSlipping hb
  · exact .highChallengeWeek hfound

end All

theorem Detects.readable {t : Timeline} {s : Signal} (h : Detects t s) :
    ∀ p, s.details.progress = some p → ∃ text, Variables.percentage p = .ok text := by
  cases h with
  | goalAtRisk h => exact (Detect.goalAtRisk_detected h).readable
  | goalStalled h => exact (Detect.goalStalled_detected h).readable
  | routineForming b => exact (Detect.routineForming_detected b t).readable
  | routineSlipping h => exact (Detect.routineSlipping_detected h).readable
  | highChallengeWeek h => exact (Detect.highChallengeWeek_detected h).readable

/-! ## Their cards -/

theorem Variables.args_total {v : Variables}
    (h : ∀ p, v.progress = some p → ∃ text, percentage p = .ok text) :
    ∃ args, v.args = .ok args := by
  have hslots : ∀ slot ∈ Slot.all, ∃ value, (do
      return (← v.valueOf slot).map fun value => (slot.name, value)) =
        (Except.ok value : Except Failure (Option (String × String))) := by
    intro slot _
    cases slot with
    | progress =>
      cases hp : v.progress with
      | none => exact ⟨none, by simp [valueOf, hp]⟩
      | some p =>
        obtain ⟨text, htext⟩ := h p hp
        exact ⟨some ("progress", text), by simp [valueOf, hp, htext, Slot.name]⟩
    | _ => exact ⟨_, rfl⟩
  obtain ⟨found, hfound⟩ := Outcome.mapM_total hslots
  refine ⟨found.filterMap id, ?_⟩
  unfold args
  rw [hfound]
  rfl

/-- The card is the one of the signal, for the child and at the time. -/
structure Card.From (s : Signal) (child : Child) (now : Instant) (c : Card) : Prop where
  id : c.id = StableId.cardId c.templateId c.childId c.entityId c.windowDays
  templateId : c.templateId = s.kind.name
  childId : c.childId = child.id
  entityId : c.entityId = s.details.entityId
  windowDays : c.windowDays = s.evidence.window.days
  eventIds : c.eventIds = s.evidence.eventIds
  priority : c.priority = Card.priorityFor (Template.ofSignal s.kind) s
  expires : c.expires = now.shift cardLifetime
  oneLiner : ∃ args, (Variables.ofSignal s child).args = .ok args ∧
    c.oneLiner = fill args (Template.ofSignal s.kind).oneLiner

theorem Card.from_ofSignal {s : Signal} {child : Child} {now : Instant} {c : Card}
    (h : Card.ofSignal s child now = .ok c) : c.From s child now := by
  unfold Card.ofSignal Card.build at h
  obtain ⟨args, hargs, h⟩ := Outcome.bind_eq_ok.mp h
  obtain ⟨expires, hexpires, h⟩ := Outcome.bind_eq_ok.mp h
  rw [Timestamp.utc_ofInstant] at hexpires
  cases h
  exact ⟨rfl, Template.ofSignal_id s.kind, rfl, rfl, rfl, rfl, rfl, (Except.ok.inj hexpires).symm,
    args, hargs, rfl⟩

/-- The card of a detected signal is always written. It is of the signal's
template, and cites what the signal cites. -/
theorem Detects.card {t : Timeline} {s : Signal} (h : Detects t s) (child : Child) (now : Instant) :
    ∃ c, Card.ofSignal s child now = .ok c ∧ c.templateId = s.kind.name ∧
      c.eventIds = s.evidence.eventIds ∧ c.childId = child.id := by
  obtain ⟨args, hargs⟩ := Variables.args_total (v := Variables.ofSignal s child) h.readable
  unfold Card.ofSignal Card.build
  rw [hargs, Timestamp.utc_ofInstant]
  exact ⟨_, rfl, Template.ofSignal_id s.kind, rfl, rfl⟩

end MomentInsights
