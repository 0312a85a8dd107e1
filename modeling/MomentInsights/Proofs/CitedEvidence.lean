-- The cards of hits against the check of their evidence. Every cited event is one
-- of the child's own. There are enough of them for every kind of hit but one: a
-- goal may be at risk by the moments of two weeks, while its card cites those of
-- the last week only.
import MomentInsights.Proofs.Evaluation

namespace MomentInsights

/-! ## What is cited is known -/

namespace Timeline

theorem behaviorWeek_ofEvents (es : List Event) (now : Instant) (id : String) :
    (ofEvents es now).behaviorWeek id =
      (within (Window.week.start now) now es).filter (fun e => e.behaviorId == id) :=
  groupOf_groupByBehavior _ id

theorem behaviorFortnight_ofEvents (es : List Event) (now : Instant) (id : String) :
    (ofEvents es now).behaviorFortnight id =
      (within (Window.fortnight.start now) now es).filter (fun e => e.behaviorId == id) :=
  groupOf_groupByBehavior _ id

end Timeline

section Known

variable {es : List Event} {now : Instant}

theorem mem_of_mem_within {start stop : Instant} {e : Event}
    (h : e ∈ Timeline.within start stop es) : e ∈ es := List.mem_of_mem_filter h

theorem mem_of_mem_positiveWeek {e : Event} (h : e ∈ (Timeline.ofEvents es now).positiveWeek) :
    e ∈ es := mem_of_mem_within (List.mem_of_mem_filter h)

theorem mem_of_mem_positiveFortnight {e : Event}
    (h : e ∈ (Timeline.ofEvents es now).positiveFortnight) : e ∈ es :=
  mem_of_mem_within (List.mem_of_mem_filter h)

theorem mem_of_mem_challengesWeek {e : Event} (h : e ∈ (Timeline.ofEvents es now).challengesWeek) :
    e ∈ es := mem_of_mem_within (List.mem_of_mem_filter h)

theorem mem_of_mem_behaviorWeek {id : String} {e : Event}
    (h : e ∈ (Timeline.ofEvents es now).behaviorWeek id) : e ∈ es := by
  rw [Timeline.behaviorWeek_ofEvents] at h
  exact mem_of_mem_within (List.mem_of_mem_filter h)

theorem mem_of_mem_behaviorFortnight {id : String} {e : Event}
    (h : e ∈ (Timeline.ofEvents es now).behaviorFortnight id) : e ∈ es := by
  rw [Timeline.behaviorFortnight_ofEvents] at h
  exact mem_of_mem_within (List.mem_of_mem_filter h)

/-- A hit that cites events of the child cites known ids. -/
theorem Detected.known {kind : SignalKind} {cited : List Event} {enough : Prop} {s : Signal}
    (h : Detected kind cited enough s) (hs : s.triggered = true) (hsub : ∀ e ∈ cited, e ∈ es) :
    ∀ id ∈ s.evidence.eventIds, id ∈ (Timeline.ofEvents es now).eventIds := by
  intro id hid
  rw [h.cites hs] at hid
  obtain ⟨e, he, rfl⟩ := List.mem_map.mp hid
  exact List.mem_map_of_mem (hsub e he)

theorem Detects.known {s : Signal} (h : Detects (Timeline.ofEvents es now) s)
    (hs : s.triggered = true) :
    ∀ id ∈ s.evidence.eventIds, id ∈ (Timeline.ofEvents es now).eventIds := by
  cases h with
  | goalAtRisk h =>
    apply (Detect.goalAtRisk_detected h).known hs
    intro e
    exact mem_of_mem_positiveWeek
  | goalStalled h =>
    apply (Detect.goalStalled_detected h).known hs
    intro e
    exact mem_of_mem_positiveFortnight
  | routineForming b =>
    apply (Detect.routineForming_detected b _).known hs
    intro e
    exact mem_of_mem_behaviorWeek
  | routineSlipping h =>
    apply (Detect.routineSlipping_detected h).known hs
    intro e he
    exact mem_of_mem_behaviorFortnight (List.mem_mergeSort.mp he)
  | highChallengeWeek h =>
    apply (Detect.highChallengeWeek_detected h).known hs
    intro e he
    rcases List.mem_append.mp he with he | he
    · exact mem_of_mem_challengesWeek he
    · exact mem_of_mem_positiveWeek he

theorem known_of_detected {r : Report} (h : ∀ s ∈ r.signals, Detects (Timeline.ofEvents es now) s) :
    ∀ s ∈ r.triggered, ∀ id ∈ s.evidence.eventIds, id ∈ (Timeline.ofEvents es now).eventIds := by
  intro s hs
  exact (h s (List.mem_of_mem_filter hs)).known (List.of_mem_filter hs)

end Known

/-- Cards that are built from signals that cite known events cite known events. -/
theorem known_of_built {signals : List Signal} {child : Child} {now : Instant} {built : List Card}
    {known : List String} (h : ∀ s ∈ signals, ∀ id ∈ s.evidence.eventIds, id ∈ known)
    (hbuilt : signals.mapM (Card.ofSignal · child now) = .ok built) :
    ∀ c ∈ built, ∀ id ∈ c.eventIds, id ∈ known := by
  intro c hc
  obtain ⟨s, hs, hcard⟩ := Outcome.exists_of_mem_mapM hbuilt hc
  rw [(Card.from_ofSignal hcard).eventIds]
  exact h s hs

/-- A card that cites only known events can only cite too few. -/
theorem Evidence.flaw?_of_known {known : List String} {c : Card} (h : ∀ id ∈ c.eventIds, id ∈ known) :
    flaw? known c =
      if c.eventIds.length < Template.minimumEvidence c.templateId then
        some (.tooFew c.eventIds.length (Template.minimumEvidence c.templateId) c.templateId)
      else none := by
  have hunknown : c.eventIds.filter (fun id => !known.contains id) = [] := by
    rw [List.filter_eq_nil_iff]
    intro id hid
    simp [h id hid]
  unfold flaw?
  rw [hunknown]
  rfl

/-! ## Whether there is enough of it -/

theorem Template.minimumEvidence_goalAtRisk :
    Template.minimumEvidence SignalKind.goalAtRisk.name = minEventsAtRisk := rfl

theorem Template.minimumEvidence_of_ne {kind : SignalKind} (h : kind ≠ .goalAtRisk) :
    Template.minimumEvidence kind.name = minEvents := by
  cases kind with
  | goalAtRisk => exact absurd rfl h
  | _ => rfl

/-- A hit cites as many events as its card must, unless it is a goal at risk of a
child with too few good moments in the week. -/
theorem Detects.enough_iff {t : Timeline} {s : Signal} (h : Detects t s) (hs : s.triggered = true) :
    Template.minimumEvidence s.kind.name ≤ s.evidence.eventIds.length ↔
      (s.kind = .goalAtRisk → minEventsAtRisk ≤ t.positiveWeek.length) := by
  have hother {kind : SignalKind} {cited : List Event} {enough : Prop} (hne : kind ≠ .goalAtRisk)
      (hd : Detected kind cited enough s) (hle : enough → minEvents ≤ cited.length) :
      Template.minimumEvidence s.kind.name ≤ s.evidence.eventIds.length ↔
        (s.kind = .goalAtRisk → minEventsAtRisk ≤ t.positiveWeek.length) := by
    rw [hd.kind_eq, Template.minimumEvidence_of_ne hne, hd.cites hs, List.length_map]
    exact ⟨fun _ hk => absurd hk hne, fun _ => hle (hd.enough hs)⟩
  cases h with
  | goalAtRisk h =>
    have hd := Detect.goalAtRisk_detected h
    rw [hd.kind_eq, Template.minimumEvidence_goalAtRisk, hd.cites hs, List.length_map]
    exact ⟨fun hle _ => hle, fun hle => hle rfl⟩
  | goalStalled h => exact hother (by decide) (Detect.goalStalled_detected h) id
  | routineForming b =>
    apply hother (by decide) (Detect.routineForming_detected b t)
    intro hle
    exact Nat.le_trans (by decide) hle
  | routineSlipping h => exact hother (by decide) (Detect.routineSlipping_detected h) id
  | highChallengeWeek h => exact hother (by decide) (Detect.highChallengeWeek_detected h) id

/-- The card of a hit has no flaw in its evidence just when it cites enough. -/
theorem Detects.flaw_iff {es : List Event} {now : Instant} {s : Signal}
    (h : Detects (Timeline.ofEvents es now) s) (hs : s.triggered = true) {c : Card}
    (htemplate : c.templateId = s.kind.name) (hids : c.eventIds = s.evidence.eventIds) :
    Evidence.flaw? (Timeline.ofEvents es now).eventIds c = none ↔
      (s.kind = .goalAtRisk →
        minEventsAtRisk ≤ (Timeline.ofEvents es now).positiveWeek.length) := by
  rw [Evidence.flaw?_eq_none, htemplate, hids, h.enough_iff hs]
  exact and_iff_left (h.known hs)

/-! ## A hit without evidence -/

/-- A computed hit. -/
theorem exists_hit {x : Except Failure Signal} (h : x.toOption.map (·.triggered) = some true) :
    ∃ s, x = .ok s ∧ s.triggered = true := Outcome.exists_ok_of_map h

/-- The goal is at risk, and the card cites nothing. -/
theorem hit_without_evidence :
    ¬ ∀ (es : List Event) (child : Child) (now : Instant) (s : Signal),
      Detects (Timeline.ofEvents es now) s → s.triggered = true →
        ∃ c, Card.ofSignal s child now = .ok c ∧
          Evidence.flaw? (Timeline.ofEvents es now).eventIds c = none := by
  intro hall
  let t := Timeline.ofEvents oldMoments twentiethDay
  have hhit : (Detect.goalAtRisk nearGoal t).toOption.map (·.triggered) = some true := by
    decide +kernel
  obtain ⟨s, hdetect, hs⟩ := exists_hit hhit
  have hd : Detects t s := .goalAtRisk hdetect
  obtain ⟨c, hc, hflaw⟩ := hall oldMoments oldChild twentiethDay s hd hs
  obtain ⟨c', hc', htemplate, hids, -⟩ := hd.card oldChild twentiethDay
  rw [hc] at hc'
  cases hc'
  have henough := (hd.flaw_iff hs htemplate hids).mp hflaw (Detect.goalAtRisk_detected hdetect).kind_eq
  have hnone : t.positiveWeek.length = 0 := by decide +kernel
  rw [hnone] at henough
  exact absurd henough (by decide)

/-! ## The check of the cards -/

/-- Every hit has its card, and the card cites known events. It is accepted unless
it is for a goal at risk and the week has fewer than two good moments, and no other
card of any evaluation is dropped for its evidence. -/
theorem evidence_accepted_iff :
    (∀ (es : List Event) (child : Child) (now : Instant) (s : Signal),
      Detects (Timeline.ofEvents es now) s → s.triggered = true →
        ∃ c, Card.ofSignal s child now = .ok c ∧
          (∀ id ∈ c.eventIds, id ∈ (Timeline.ofEvents es now).eventIds) ∧
          (Evidence.flaw? (Timeline.ofEvents es now).eventIds c = none ↔
            (s.kind = .goalAtRisk →
              minEventsAtRisk ≤ (Timeline.ofEvents es now).positiveWeek.length))) ∧
    ∀ (src : Source) (store store' : Cooldown.Store) (childId : String) (now : Instant) (r : Report),
      Engine.run src store childId now = .ok (r, store') →
        ∀ d ∈ r.dropped, d.reason = .evidenceInvalid →
          d.card.templateId = SignalKind.goalAtRisk.name ∧
            (Timeline.ofEvents (src.events childId) now).positiveWeek.length < minEventsAtRisk := by
  constructor
  · intro es child now s hd hs
    obtain ⟨c, hc, htemplate, hids, -⟩ := hd.card child now
    refine ⟨c, hc, ?_, hd.flaw_iff hs htemplate hids⟩
    rw [hids]
    exact hd.known hs
  · intro src store store' childId now r hrun d hdropped hreason
    cases hchild : src.child childId with
    | none =>
      rw [(Engine.run_without_cards hrun (Or.inl hchild)).2] at hdropped
      cases hdropped
    | some child =>
      by_cases hevents : (Timeline.ofEvents (src.events childId) now).fortnight.length < minEvents
      · rw [(Engine.run_without_cards hrun (Or.inr hevents)).2] at hdropped
        cases hdropped
      · obtain ⟨rs, -, -, hr⟩ := (Engine.run_known hchild (Nat.not_lt.mp hevents)).1 r store' hrun
        have htriggered := Engine.detects_of_triggered hr.detected
        obtain ⟨hbuilt, hflaw⟩ : d.card ∈ r.built ∧ Evidence.flaw?
            (Timeline.ofEvents (src.events childId) now).eventIds d.card ≠ none := by
          rcases hr.dropped_reason hdropped with ⟨-, hflawed⟩ | (hother | hother) | hother
          · exact hflawed
          all_goals
            rw [hother] at hreason
            cases hreason
        obtain ⟨s, hs, htemplate, hids, -⟩ :=
          Engine.exists_signal_of_built htriggered hr.built hbuilt
        have hiff := (htriggered s hs).flaw_iff (List.of_mem_filter hs) htemplate hids
        have hnot := mt hiff.mpr hflaw
        rw [Classical.not_imp] at hnot
        exact ⟨by rw [htemplate, hnot.1], Nat.not_le.mp hnot.2⟩

/-- The same goal has stalled, and that card is accepted. -/
theorem evidence_accepted_stalled :
    ∃ s c, Detect.goalStalled nearGoal (Timeline.ofEvents oldMoments twentiethDay) = .ok s ∧
      s.triggered = true ∧ Card.ofSignal s oldChild twentiethDay = .ok c ∧
      Evidence.flaw? (Timeline.ofEvents oldMoments twentiethDay).eventIds c = none := by
  have hhit : (Detect.goalStalled nearGoal
      (Timeline.ofEvents oldMoments twentiethDay)).toOption.map (·.triggered) = some true := by
    decide +kernel
  obtain ⟨s, hdetect, hs⟩ := exists_hit hhit
  obtain ⟨c, hc, -, hiff⟩ := evidence_accepted_iff.1 oldMoments oldChild
    twentiethDay s (.goalStalled hdetect) hs
  have hkind := (Detect.goalStalled_detected hdetect).kind_eq
  refine ⟨s, c, hdetect, hs, hc, hiff.mpr ?_⟩
  rw [hkind]
  intro h
  cases h

end MomentInsights
