-- Displays of one child and the rests of the others. All children share one stored text,
-- and a report of displays writes it anew as of its own time: what was shown thirty days
-- before that time is gone, whichever child it was shown to, and nothing else is.
import MomentInsights.Proofs.FailedRequests
import MomentInsights.Proofs.ReachedStates

namespace MomentInsights

open Cooldown (Showings Store)

/-! ## Pairs that are not displayed -/

/-- Shown less than thirty days before the time. -/
def Instant.isYoungAt (shown time : Instant) : Bool :=
  (time.micros : Int) < shown.micros + (Duration.days 30).micros

namespace Cooldown.Showings

variable {m : Showings} {time : Instant} {pair : String × String}

theorem display_other (htime : time.Supported) {pairs : List (String × String)}
    (hpair : pair ∉ pairs) :
    m.display pairs time pair =
      (m pair).filter fun shown => pairs.isEmpty || shown.isYoungAt time := by
  unfold display
  cases hempty : pairs.isEmpty with
  | true =>
    rw [if_pos rfl]
    cases m pair <;> rfl
  | false =>
    apply Option.ext
    intro shown
    rw [if_neg Bool.false_ne_true, Engine.record_eq_some htime.1 htime.2, if_neg hpair,
      Option.filter_eq_some_iff, Bool.false_or, Instant.isYoungAt, decide_eq_true_eq]

theorem not_mem_pairs {cards : List ShownCard} (h : ∀ c ∈ cards, c.pair ≠ pair) :
    pair ∉ cards.map ShownCard.pair := by
  intro hmem
  obtain ⟨c, hc, hsame⟩ := List.mem_map.mp hmem
  exact h c hc hsame

/-- Two displays at one time forget what each of them would. -/
theorem display_display_other (htime : time.Supported) {first second : List ShownCard}
    (hpair : ∀ c ∈ first ++ second, c.pair ≠ pair) :
    (m.display (first.map ShownCard.pair) time).display (second.map ShownCard.pair) time pair =
      (m pair).filter fun shown => (first ++ second).isEmpty || shown.isYoungAt time := by
  have hfirst := not_mem_pairs fun c hc => hpair c (List.mem_append_left second hc)
  have hsecond := not_mem_pairs fun c hc => hpair c (List.mem_append_right first hc)
  rw [display_other htime hsecond, display_other htime hfirst, Option.filter_filter]
  congr 1
  funext shown
  cases first <;> cases second <;> simp

end Cooldown.Showings

/-! ## What the stored text tells -/

namespace Service.Server

/-- The records that the stored text holds. -/
def stored (s : Server) : Except Failure (List Cooldown.Record) :=
  Cooldown.decode .standard s.settings.room s.tables.cooldowns

/-- When the pair was last shown, as far as that is stored. -/
def shown? (s : Server) (pair : String × String) : Option Instant :=
  (s.stored.toOption.bind (Store.find? · pair.1 pair.2)).map (·.shown)

/-- The pair rests. -/
def rests (s : Server) (now : Instant) (pair : String × String) : Except Failure Bool :=
  (s.store.isOnCooldown pair.1 pair.2 (Timestamp.ofInstant now)).1

end Service.Server

/-- Less than three days have gone by since the time, or it is still to come. -/
def Instant.restsAt (shown now : Instant) : Bool :=
  (now.micros : Int) < shown.micros + (Duration.days 3).micros

namespace Service

theorem HoldsShowings.shown?_eq {s : Server} {m : Showings} (h : HoldsShowings s m)
    (pair : String × String) : s.shown? pair = m pair := by
  obtain ⟨rs, hholds⟩ := h
  have hstored : s.stored = .ok rs := hholds.text s.settings.room
  unfold Server.shown?
  rw [hstored]
  simp only [Except.toOption, Option.bind_some, hholds.lists.find?]
  cases m pair <;> rfl

theorem HoldsShowings.rests_eq {s : Server} {m : Showings} (h : HoldsShowings s m) (now : Instant)
    (pair : String × String) : s.rests now pair = .ok ((m pair).any (·.restsAt now)) := by
  obtain ⟨rs, hholds⟩ := h
  unfold Server.rests Instant.restsAt
  rw [hholds.isOnCooldown, ← Engine.ends_after_iff hholds.ends, Timestamp.utc_ofInstant]
  cases m.endOf .standard pair <;> rfl

namespace Server

variable {s : Server} {q : Request} {childId : String} {f : DisplayedForm}

/-- An accepted report of displays was stored, and its reply tells of what was stored. -/
theorem handle_displayed (hq : q.GoesTo (.displayed childId))
    (hform : q.form s.settings.bodyDepth DisplayedForm.check = .ok f)
    (haccepted : (s.handle q).1.status = 200) :
    ∃ d, display s.settings.threshold (firstOfEach f.cards childId) (f.time.getD s.clock)
        s.store = .ok d ∧
      s.handle q = (displayedReply childId (f.time.getD s.clock) d,
        { s with tables := { s.tables with cooldowns := d.store.text } }) := by
  have hserve : s.serve q (.displayed childId) = s.recordDisplayed childId f := by
    rw [serve, withForm, hform]
  rw [handle_of_goesTo hq, hserve] at haccepted ⊢
  rcases recordDisplayed_cases s childId f with ⟨r, hrefused, hstatus⟩ | ⟨-, d, hd, hstored⟩
  · rw [hrefused] at haccepted
    rw [haccepted] at hstatus
    exact absurd hstatus (by decide)
  · rw [hstored] at haccepted ⊢
    refine ⟨d, hd, ?_⟩
    rcases encoded_eq_or_failed (displayedReply childId (f.time.getD s.clock) d) with hsame | hfail
    · rw [hsame]
    · rw [hfail] at haccepted
      cases haccepted

theorem displayed_accepted (hq : q.GoesTo (.displayed childId))
    (hform : q.form s.settings.bodyDepth DisplayedForm.check = .ok f)
    (haccepted : (s.handle q).1.status = 200) :
    ∃ d, display s.settings.threshold (firstOfEach f.cards childId) (f.time.getD s.clock)
        s.store = .ok d ∧
      (s.handle q).2 = { s with tables := { s.tables with cooldowns := d.store.text } } := by
  obtain ⟨d, hd, hhandle⟩ := handle_displayed hq hform haccepted
  exact ⟨d, hd, by rw [hhandle]⟩

/-- A pair that rests is still young at any time up to twenty-seven days ahead. -/
theorem isYoungAt_of_restsAt {shown now time : Instant} (hrests : shown.restsAt now = true)
    (htime : (time.micros : Int) ≤ now.micros + (Duration.days 27).micros) :
    shown.isYoungAt time = true := by
  unfold Instant.restsAt at hrests
  unfold Instant.isYoungAt
  rw [decide_eq_true_eq] at hrests ⊢
  have hdays : (Duration.days 27).micros + (Duration.days 3).micros = (Duration.days 30).micros := by
    decide
  omega

/-- An accepted report of displays of one child does to the pairs of another just this:
where it recorded a card, it takes the rest of those that were shown thirty days before
its time or earlier. So a pair rests as before at every instant from twenty-seven days
before the time of the report on. -/
theorem other_children_rest (hs : Reached s) (hq : q.GoesTo (.displayed childId))
    (hform : q.form s.settings.bodyDepth DisplayedForm.check = .ok f)
    (haccepted : (s.handle q).1.status = 200)
    (htime : (f.time.getD s.clock).Supported) {pair : String × String} (hother : pair.2 ≠ childId)
    (now : Instant) :
    s.rests now pair = .ok ((s.shown? pair).any (·.restsAt now)) ∧
      (∃ d, display s.settings.threshold (firstOfEach f.cards childId) (f.time.getD s.clock)
          s.store = .ok d ∧
        (s.handle q).2.rests now pair = .ok ((s.shown? pair).any fun shown =>
          (d.recorded.isEmpty || shown.isYoungAt (f.time.getD s.clock)) && shown.restsAt now)) ∧
      (((f.time.getD s.clock).micros : Int) ≤ now.micros + (Duration.days 27).micros →
        (s.handle q).2.rests now pair = s.rests now pair) := by
  obtain ⟨m, hm⟩ := hs.holdsShowings
  obtain ⟨d, hd, htables⟩ := displayed_accepted hq hform haccepted
  obtain ⟨first, second, hrecorded, hcards, hafter⟩ := hm.display hd
  have hpairs : ∀ c ∈ first ++ second, c.pair ≠ pair := by
    rintro c hc rfl
    exact hother (childId_of_mem_firstOfEach (hcards (hrecorded ▸ hc)))
  have hbefore := hm.rests_eq now pair
  have hleft := hafter.rests_eq now pair
  rw [Cooldown.Showings.display_display_other htime hpairs, ← hrecorded, Option.any_filter] at hleft
  rw [hm.shown?_eq, htables]
  refine ⟨hbefore, ⟨d, hd, hleft⟩, ?_⟩
  intro hsoon
  rw [hbefore, hleft]
  cases m pair with
  | none => rw [Option.any_none, Option.any_none]
  | some shown =>
    rw [Option.any_some, Option.any_some]
    cases hrests : shown.restsAt now with
    | false => rw [Bool.and_false]
    | true => rw [isYoungAt_of_restsAt hrests hsoon, Bool.or_true, Bool.true_and]

/-! ## Two children -/

def newChild (id : String) : Request where
  method := "POST"
  path := "/records/children"
  query := []
  payload := .value <| .obj [("id", .str id), ("name", .str "Ada")]

/-- The card for the stalled goal was displayed to the child at the given time. -/
def stalledShown (childId time : String) : Request where
  method := "POST"
  path := "/insights/" ++ childId ++ "/cards/displayed"
  query := []
  payload := .value <| .obj [("cards", .arr [.obj [("template_id", .str "goal_stalled")]]),
    ("at", .str time)]

/-- The second of two children was shown the card on the second day. -/
def secondShown : Server :=
  let s : Server := { clock := .epoch }
  let s := (s.handle (newChild "c1")).2
  let s := (s.handle (newChild "c2")).2
  (s.handle (stalledShown "c2" "1970-01-02T00:00:00Z")).2

theorem reached_secondShown : Reached secondShown := by
  unfold secondShown
  exact .request _ (.request _ (.request _ (.fresh {} .epoch)))

/-- The first child is reported to have been shown the card six weeks later. -/
def weeksLater : Request := stalledShown "c1" "1970-02-15T00:00:00Z"

def secondPair : String × String := ("goal_stalled", "c2")

theorem weeksLater_form : ∃ f,
    weeksLater.form secondShown.settings.bodyDepth DisplayedForm.check = .ok f ∧
      (f.time.getD secondShown.clock).Supported := by
  have htime :
      (weeksLater.form secondShown.settings.bodyDepth DisplayedForm.check).toOption.any fun f =>
        f.time.any fun time => time.Supported := by
    decide +kernel
  cases hform : weeksLater.form secondShown.settings.bodyDepth DisplayedForm.check with
  | error reply => simp [hform, Except.toOption] at htime
  | ok f =>
    refine ⟨f, rfl, ?_⟩
    cases hf : f.time with
    | none => simp [hform, hf, Except.toOption] at htime
    | some time => simpa [hform, hf, Except.toOption] using htime

/-- On the third day the second child's pair rests before the report, and not after it. -/
theorem weeksLater_rests :
    let thirdDay := Instant.epoch.shift (Duration.days 2)
    (secondShown.rests thirdDay secondPair).toOption = some true ∧
      (secondShown.handle weeksLater).1.status = 200 ∧
      ((secondShown.handle weeksLater).2.rests thirdDay secondPair).toOption =
        some false := by
  decide +kernel

theorem other_children_rest_weeksLater :
    ∃ f, weeksLater.form secondShown.settings.bodyDepth DisplayedForm.check = .ok f ∧
      ∀ now : Instant,
        ((f.time.getD secondShown.clock).micros : Int) ≤ now.micros + (Duration.days 27).micros →
        (secondShown.handle weeksLater).2.rests now secondPair =
          secondShown.rests now secondPair := by
  obtain ⟨f, hform, htime⟩ := weeksLater_form
  refine ⟨f, hform, ?_⟩
  intro now hsoon
  have hother : secondPair.2 ≠ "c1" := by decide
  obtain ⟨-, -, hsame⟩ := other_children_rest reached_secondShown (by decide +kernel) hform
    weeksLater_rests.2.1 htime hother now
  exact hsame hsoon

/-- A report for one child ends a rest of the other. -/
theorem late_report_ends_other_rest :
    ¬ ∀ (s : Server) (q : Request) (childId : String) (f : DisplayedForm)
      (pair : String × String) (now : Instant), Reached s → q.GoesTo (.displayed childId) →
      q.form s.settings.bodyDepth DisplayedForm.check = .ok f → (s.handle q).1.status = 200 →
      (f.time.getD s.clock).Supported → pair.2 ≠ childId → now.Supported →
      (s.handle q).2.rests now pair = s.rests now pair := by
  intro hall
  obtain ⟨f, hform, htime⟩ := weeksLater_form
  obtain ⟨hbefore, haccepted, hafter⟩ := weeksLater_rests
  have hsame := hall secondShown weeksLater "c1" f secondPair (Instant.epoch.shift (Duration.days 2))
    reached_secondShown (by decide +kernel) hform haccepted htime (by decide) (by decide)
  rw [hsame, hbefore] at hafter
  cases hafter

end Server

end Service

end MomentInsights
