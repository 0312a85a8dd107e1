-- What the index of a timeline holds. Each part is a plain filter of the events, in their
-- order: by kind, by the last days and by behavior. The groups are built event by event, and
-- after each event they are the filters of the events so far.
import Mathlib.Data.List.Induction
import MomentInsights.Proofs.HonestSignals

namespace MomentInsights

/-! ## Groups as filters -/

/-- The behaviors of the events, each once, in the order in which they first come. -/
def behaviorsOf (es : List Event) : List String := (es.map (·.behaviorId)).eraseDups

/-- The events of each of the behaviors, by one filter for each. -/
def filtersOf (ids : List String) (es : List Event) : List (String × List Event) :=
  ids.map fun id => (id, es.filter fun e => e.behaviorId == id)

theorem mem_behaviorsOf {es : List Event} {id : String} :
    id ∈ behaviorsOf es ↔ ∃ e ∈ es, e.behaviorId = id := by
  unfold behaviorsOf
  rw [List.mem_eraseDups, List.mem_map]

theorem nodup_behaviorsOf (es : List Event) : (behaviorsOf es).Nodup := Order.nodup_eraseDups _

theorem behaviorsOf_snoc (es : List Event) (e : Event) :
    behaviorsOf (es ++ [e]) =
      if e.behaviorId ∈ behaviorsOf es then behaviorsOf es else behaviorsOf es ++ [e.behaviorId] := by
  have happend : behaviorsOf (es ++ [e]) =
      behaviorsOf es ++ ([e.behaviorId].removeAll (es.map (·.behaviorId))).eraseDups := by
    unfold behaviorsOf
    rw [List.map_append, List.eraseDups_append, List.map_singleton]
  by_cases h : e.behaviorId ∈ behaviorsOf es
  · have hmem : e.behaviorId ∈ es.map (·.behaviorId) := List.mem_eraseDups.mp h
    rw [if_pos h, happend, List.removeAll]
    simp [hmem, -List.mem_map]
  · have hmem : e.behaviorId ∉ es.map (·.behaviorId) := fun hmem => h (List.mem_eraseDups.mpr hmem)
    rw [if_neg h, happend, List.removeAll]
    simp [hmem, List.eraseDups_cons, -List.mem_map]

/-- An event changes the filter of its own behavior only. -/
theorem filter_snoc_of_ne {es : List Event} {e : Event} {id : String} (h : e.behaviorId ≠ id) :
    (es ++ [e]).filter (fun e => e.behaviorId == id) = es.filter fun e => e.behaviorId == id := by
  simp [List.filter_append, h]

theorem filter_snoc_self (es : List Event) (e : Event) :
    (es ++ [e]).filter (fun x => x.behaviorId == e.behaviorId) =
      es.filter (fun x => x.behaviorId == e.behaviorId) ++ [e] := by
  simp [List.filter_append]

theorem filtersOf_snoc_of_notMem {ids : List String} {es : List Event} {e : Event}
    (h : e.behaviorId ∉ ids) : filtersOf ids (es ++ [e]) = filtersOf ids es := by
  apply List.map_congr_left
  intro id hid
  rw [filter_snoc_of_ne]
  rintro rfl
  exact h hid

/-- The event goes to the end of the group of its behavior. -/
theorem addToGroup_of_mem {ids : List String} {es : List Event} {e : Event} (hids : ids.Nodup)
    (h : e.behaviorId ∈ ids) : addToGroup e (filtersOf ids es) = filtersOf ids (es ++ [e]) := by
  induction ids with
  | nil => cases h
  | cons id ids ih =>
    obtain ⟨hfirst, hrest⟩ := List.nodup_cons.mp hids
    change addToGroup e ((id, _) :: filtersOf ids es) = (id, _) :: filtersOf ids (es ++ [e])
    unfold addToGroup
    by_cases hid : id = e.behaviorId
    · subst hid
      rw [if_pos rfl, filter_snoc_self, filtersOf_snoc_of_notMem hfirst]
    · rcases List.mem_cons.mp h with hfound | hfound
      · exact absurd hfound.symm hid
      · rw [if_neg hid, filter_snoc_of_ne (Ne.symm hid), ih hrest hfound]

/-- The first event of a behavior starts a group after the others. -/
theorem addToGroup_of_notMem {ids : List String} {es : List Event} {e : Event}
    (h : e.behaviorId ∉ ids) :
    addToGroup e (filtersOf ids es) = filtersOf ids es ++ [(e.behaviorId, [e])] := by
  induction ids with
  | nil => rfl
  | cons id ids ih =>
    rw [List.mem_cons, not_or] at h
    change addToGroup e ((id, _) :: filtersOf ids es) = (id, _) :: (filtersOf ids es ++ _)
    unfold addToGroup
    rw [if_neg (Ne.symm h.1), ih h.2]

/-- The groups of the events so far, with one event more. -/
theorem addToGroup_filtersOf (es : List Event) (e : Event) :
    addToGroup e (filtersOf (behaviorsOf es) es) =
      filtersOf (behaviorsOf (es ++ [e])) (es ++ [e]) := by
  rw [behaviorsOf_snoc]
  by_cases h : e.behaviorId ∈ behaviorsOf es
  · rw [if_pos h]
    exact addToGroup_of_mem (nodup_behaviorsOf es) h
  · have hnone : es.filter (fun x => x.behaviorId == e.behaviorId) = [] := by
      rw [List.filter_eq_nil_iff]
      intro x hx hsame
      exact h (mem_behaviorsOf.mpr ⟨x, hx, beq_iff_eq.mp hsame⟩)
    have hown : filtersOf [e.behaviorId] (es ++ [e]) = [(e.behaviorId, [e])] := by
      unfold filtersOf
      rw [List.map_singleton, filter_snoc_self, hnone, List.nil_append]
    rw [if_neg h, addToGroup_of_notMem h, ← hown, ← filtersOf_snoc_of_notMem h]
    exact (List.map_append ..).symm

/-- The groups are the filters by behavior, of the behaviors that there are. -/
theorem groupByBehavior_eq (es : List Event) :
    groupByBehavior es = filtersOf (behaviorsOf es) es := by
  induction es using List.reverseRecOn with
  | nil => rfl
  | append_singleton es e ih =>
    rw [← addToGroup_filtersOf, ← ih]
    unfold groupByBehavior
    rw [List.foldl_append]
    rfl

/-! ## Groups as parts -/

/-- The groups are the parts of the events: no behavior has two, each holds the events of its
behavior in their order, at least one, and together they hold all events. -/
structure GroupsOf (es : List Event) (groups : List (String × List Event)) : Prop where
  once : (groups.map (·.1)).Nodup
  own : ∀ g ∈ groups, g.2 = es.filter (fun e => e.behaviorId == g.1) ∧ g.2 ≠ []
  all : (groups.map (·.2)).flatten.Perm es

theorem flatten_filtersOf {ids : List String} (hids : ids.Nodup) (es : List Event) :
    ((filtersOf ids es).map (·.2)).flatten.Perm (es.filter fun e => ids.contains e.behaviorId) := by
  induction ids with
  | nil => simp [filtersOf]
  | cons id ids ih =>
    obtain ⟨hfirst, hrest⟩ := List.nodup_cons.mp hids
    have hsplit := List.filter_append_perm (fun e : Event => e.behaviorId == id)
      (es.filter fun e => (id :: ids).contains e.behaviorId)
    have hown : (es.filter fun e => (id :: ids).contains e.behaviorId).filter
        (fun e => e.behaviorId == id) = es.filter fun e => e.behaviorId == id := by
      rw [List.filter_filter]
      apply List.filter_congr
      intro e _
      by_cases h : e.behaviorId = id <;> simp [h]
    have hothers : (es.filter fun e => (id :: ids).contains e.behaviorId).filter
        (fun e => !(e.behaviorId == id)) = es.filter fun e => ids.contains e.behaviorId := by
      rw [List.filter_filter]
      apply List.filter_congr
      intro e _
      by_cases h : e.behaviorId = id <;> simp [h, hfirst]
    rw [hown, hothers] at hsplit
    exact ((ih hrest).append_left _).trans hsplit

theorem groupsOf_groupByBehavior (es : List Event) : GroupsOf es (groupByBehavior es) := by
  rw [groupByBehavior_eq]
  refine ⟨?_, ?_, ?_⟩
  · have hids : (filtersOf (behaviorsOf es) es).map (·.1) = behaviorsOf es := by
      simp [filtersOf, Function.comp_def]
    rw [hids]
    exact nodup_behaviorsOf es
  · intro g hg
    obtain ⟨id, hid, rfl⟩ := List.mem_map.mp hg
    obtain ⟨e, he, hsame⟩ := mem_behaviorsOf.mp hid
    refine ⟨rfl, List.ne_nil_of_mem (List.mem_filter.mpr ⟨he, ?_⟩)⟩
    exact beq_iff_eq.mpr hsame
  · have hall : (es.filter fun e => (behaviorsOf es).contains e.behaviorId) = es := by
      rw [List.filter_eq_self]
      intro e he
      exact List.contains_iff_mem.mpr (mem_behaviorsOf.mpr ⟨e, he, rfl⟩)
    have hflatten := flatten_filtersOf (nodup_behaviorsOf es) es
    rwa [hall] at hflatten

/-! ## The newest positive event -/

/-- The first listed of the newest of the events, if there are any. -/
inductive FirstNewest : List Event → Option Event → Prop where
  | none : FirstNewest [] none
  | some {before after : List Event} {e : Event} (hbefore : ∀ x ∈ before, x.time < e.time)
    (hafter : ∀ x ∈ after, x.time ≤ e.time) : FirstNewest (before ++ e :: after) (some e)

/-- The search looks at one event more. -/
theorem FirstNewest.snoc {es : List Event} {best : Option Event} (h : FirstNewest es best)
    (x : Event) : FirstNewest (es ++ [x]) (Timeline.laterEvent best x) := by
  cases h with
  | none => exact @FirstNewest.some [] [] x (by simp) (by simp)
  | @some before after e hbefore hafter =>
    unfold Timeline.laterEvent
    dsimp only
    by_cases hlater : e.time < x.time
    · rw [if_pos hlater]
      refine @FirstNewest.some (before ++ e :: after) [] x ?_ (by simp)
      intro y hy
      rw [List.mem_append, List.mem_cons] at hy
      rcases hy with hy | rfl | hy
      · exact Nat.lt_trans (hbefore y hy) hlater
      · exact hlater
      · exact Nat.lt_of_le_of_lt (hafter y hy) hlater
    · rw [if_neg hlater, List.append_assoc, List.cons_append]
      refine FirstNewest.some hbefore ?_
      intro y hy
      rcases List.mem_append.mp hy with hy | hy
      · exact hafter y hy
      · rw [List.mem_singleton.mp hy]
        exact Nat.not_lt.mp hlater

theorem firstNewest_lastPositive (t : Timeline) : FirstNewest t.positive t.lastPositive := by
  unfold Timeline.lastPositive
  induction t.positive using List.reverseRecOn with
  | nil => exact .none
  | append_singleton es x ih =>
    rw [List.foldl_append]
    exact ih.snoc x

/-! ## The index -/

namespace Timeline

/-- Where the time up to `now` starts that is `d` long, stopped at the ends of the calendar. -/
def cutoff (now : Instant) (d : Duration) : Int :=
  max 0 (min (now.micros - d.micros) Instant.last.micros)

/-- The timeline is the index of the events at the time: each part holds what a plain filter
of all events holds, in the same order, and the parts fit together. -/
structure IsIndex (es : List Event) (now : Instant) (t : Timeline) : Prop where
  now_eq : t.now = now
  all : t.all = es
  eventIds (id : String) : id ∈ t.eventIds ↔ ∃ e ∈ es, e.id = id
  week : t.week = es.filter fun e => e.inLast 7 now
  fortnight : t.fortnight = es.filter fun e => e.inLast 14 now
  positive : t.positive = es.filter Event.isPositive
  positiveWeek : t.positiveWeek = es.filter fun e => e.isPositive && e.inLast 7 now
  positiveFortnight : t.positiveFortnight = es.filter fun e => e.isPositive && e.inLast 14 now
  challengesWeek : t.challengesWeek = es.filter fun e => e.isChallenge && e.inLast 7 now
  routinesWeek : t.routinesWeek = es.filter fun e => e.isRoutine && e.inLast 7 now
  positivesSince (d : Duration) : t.positivesSince d =
    es.filter fun e => e.isPositive && cutoff now d ≤ e.time.micros
  behavior (id : String) : t.behavior id = es.filter fun e => e.behaviorId == id
  behaviorWeek (id : String) : t.behaviorWeek id =
    es.filter fun e => e.behaviorId == id && e.inLast 7 now
  behaviorFortnight (id : String) : t.behaviorFortnight id =
    es.filter fun e => e.behaviorId == id && e.inLast 14 now
  unknown (id : String) : (∀ e ∈ es, e.behaviorId ≠ id) →
    t.behavior id = [] ∧ t.behaviorWeek id = [] ∧ t.behaviorFortnight id = []
  groups : GroupsOf t.all t.byBehavior
  groupsWeek : GroupsOf t.week t.byBehaviorWeek
  groupsFortnight : GroupsOf t.fortnight t.byBehaviorFortnight
  week_sublist : t.week.Sublist t.fortnight
  week_split : (t.challengesWeek ++ t.positiveWeek).Perm t.week
  week_apart : ∀ e ∈ t.challengesWeek, e ∉ t.positiveWeek
  routines_sublist : t.routinesWeek.Sublist t.positiveWeek
  lastPositive : FirstNewest (es.filter Event.isPositive) t.lastPositive

theorem back_cutoff (now : Instant) (d : Duration) : ((now.back d).micros : Int) = cutoff now d := by
  have hshift := now.shift_micros ⟨-d.micros⟩
  have hlast : (Instant.last.micros : Int) = Instant.count - 1 := rfl
  unfold Instant.back cutoff
  rw [hshift, hlast]
  rfl

/-- What lies in the last week lies in the last two. -/
theorem inLast_fortnight {e : Event} {now : Instant} (h : e.inLast 7 now = true) :
    e.inLast 14 now = true := by
  unfold Event.inLast at h ⊢
  have hdays : 7 * Duration.dayMicros ≤ 14 * Duration.dayMicros := by decide
  rw [Bool.and_eq_true, decide_eq_true_iff, decide_eq_true_iff] at h ⊢
  omega

theorem filter_sublist_of_imp {p q : Event → Bool} (h : ∀ e, p e = true → q e = true)
    (es : List Event) : (es.filter p).Sublist (es.filter q) := by
  have hboth : es.filter p = (es.filter q).filter p := by
    rw [List.filter_filter]
    apply List.filter_congr
    intro e _
    cases hp : p e with
    | false => rfl
    | true => simp [h e hp]
  rw [hboth]
  exact List.filter_sublist

section Parts

variable (es : List Event) (now : Instant)

theorem behaviorWeek_filter (id : String) : (ofEvents es now).behaviorWeek id =
    es.filter fun e => e.behaviorId == id && e.inLast 7 now := by
  rw [behaviorWeek_ofEvents]
  exact within_filter .week now es _

theorem behaviorFortnight_filter (id : String) : (ofEvents es now).behaviorFortnight id =
    es.filter fun e => e.behaviorId == id && e.inLast 14 now := by
  rw [behaviorFortnight_ofEvents]
  exact within_filter .fortnight now es _

theorem positivesSince_filter (d : Duration) : (ofEvents es now).positivesSince d =
    es.filter fun e => e.isPositive && cutoff now d ≤ e.time.micros := by
  have hcutoff (e : Event) : now.back d ≤ e.time ↔ cutoff now d ≤ e.time.micros := by
    rw [← back_cutoff]
    exact Int.ofNat_le.symm
  unfold Timeline.positivesSince
  change (es.filter Event.isPositive).filter (fun e => now.back d ≤ e.time) = _
  rw [List.filter_filter]
  apply List.filter_congr
  intro e _
  rw [decide_eq_decide.mpr (hcutoff e), Bool.and_comm]

/-- A behavior without events has none in any of the groups. -/
theorem groups_of_unknown {id : String} (h : ∀ e ∈ es, e.behaviorId ≠ id) :
    (ofEvents es now).behavior id = [] ∧ (ofEvents es now).behaviorWeek id = [] ∧
      (ofEvents es now).behaviorFortnight id = [] := by
  have hnone (days : Nat) : es.filter (fun e => e.behaviorId == id && e.inLast days now) = [] := by
    rw [List.filter_eq_nil_iff]
    intro e he
    simp [h e he]
  refine ⟨?_, ?_, ?_⟩
  · have hgroup : (ofEvents es now).behavior id = es.filter fun e => e.behaviorId == id :=
      groupOf_groupByBehavior es id
    simpa [hgroup] using h
  · rw [behaviorWeek_filter, hnone]
  · rw [behaviorFortnight_filter, hnone]

theorem week_sublist_fortnight : (ofEvents es now).week.Sublist (ofEvents es now).fortnight := by
  have hweek : (ofEvents es now).week = es.filter fun e => e.inLast 7 now :=
    within_window .week now es
  have hfortnight : (ofEvents es now).fortnight = es.filter fun e => e.inLast 14 now :=
    within_window .fortnight now es
  rw [hweek, hfortnight]
  exact filter_sublist_of_imp (fun _ => inLast_fortnight) es

theorem challengesWeek_apart :
    ∀ e ∈ (ofEvents es now).challengesWeek, e ∉ (ofEvents es now).positiveWeek := by
  intro e hchallenge hpositive
  have hchallenge := (List.mem_filter.mp hchallenge).2
  have hpositive := (List.mem_filter.mp hpositive).2
  rw [e.isPositive_eq_not_isChallenge, hchallenge] at hpositive
  cases hpositive

/-- Whatever the events and the time, also at the start of time, the timeline is their index. -/
theorem isIndex_ofEvents : IsIndex es now (ofEvents es now) where
  now_eq := rfl
  all := rfl
  eventIds _ := List.mem_map
  week := within_window .week now es
  fortnight := within_window .fortnight now es
  positive := rfl
  positiveWeek := within_filter .week now es _
  positiveFortnight := within_filter .fortnight now es _
  challengesWeek := within_filter .week now es _
  routinesWeek := within_filter .week now es _
  positivesSince := positivesSince_filter es now
  behavior := groupOf_groupByBehavior es
  behaviorWeek := behaviorWeek_filter es now
  behaviorFortnight := behaviorFortnight_filter es now
  unknown _ h := groups_of_unknown es now h
  groups := groupsOf_groupByBehavior _
  groupsWeek := groupsOf_groupByBehavior _
  groupsFortnight := groupsOf_groupByBehavior _
  week_sublist := week_sublist_fortnight es now
  week_split := challenges_append_positives _
  week_apart := challengesWeek_apart es now
  routines_sublist := filter_sublist_of_imp (fun _ => Event.isPositive_of_isRoutine) _
  lastPositive := firstNewest_lastPositive (ofEvents es now)

end Parts

end Timeline

end MomentInsights
