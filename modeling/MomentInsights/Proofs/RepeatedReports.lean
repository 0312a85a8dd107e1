-- Reports of displays that are sent again. The same report at the same time finds its own
-- records at the end of the text, in the order in which it would write them, so it leaves
-- the text as it is, byte for byte, and its reply is the same.
import MomentInsights.Proofs.SeenCards

namespace MomentInsights

namespace Cooldown.Store

variable {s : Store} {pairs : List (String × String)} {time : Instant}

theorem record_of_recordMany (h : (s.recordMany pairs time).1 = .ok ()) :
    s.record ⟨pairs, time⟩ = .ok (s.recordMany pairs time).2 := by
  unfold record
  dsimp only
  rw [h]
  rfl

theorem recordMany_of_record {s' : Store} (h : s.record ⟨pairs, time⟩ = .ok s') :
    s.recordMany pairs time = (.ok (), s') := by
  unfold record at h
  dsimp only at h
  cases hdone : (s.recordMany pairs time).1 with
  | error f =>
    rw [hdone] at h
    cases h
  | ok =>
    rw [hdone] at h
    exact Prod.ext hdone (Except.ok.inj h)

/-- A write that is made again changes nothing, also of a store that reads the text anew. -/
theorem recordMany_again (h : (s.recordMany pairs time).1 = .ok ()) :
    (s.recordMany pairs time).2.recordMany pairs time = (.ok (), (s.recordMany pairs time).2) ∧
      ∀ s₁ : Store, s₁.periods = s.periods → s₁.text = (s.recordMany pairs time).2.text →
        (s₁.recordMany pairs time).1 = .ok () ∧ (s₁.recordMany pairs time).2.text = s₁.text := by
  have hfirst := record_of_recordMany h
  refine ⟨recordMany_of_record (record_again hfirst), ?_⟩
  intro s₁ hperiods htext
  obtain ⟨s₁', hrecord, htext'⟩ := record_again_of_text hfirst hperiods htext
  rw [recordMany_of_record hrecord]
  exact ⟨rfl, htext'⟩

end Cooldown.Store

namespace Service.Server

open Cooldown (Store)

variable {s : Server} {q : Request} {childId : String} {f : DisplayedForm}

theorem recordDisplayed_accepted (h : (s.recordDisplayed childId f).1.encoded.status = 200) :
    s.reachable = true ∧ (s.tables.child? childId).isSome ∧ ∃ d,
      display s.settings.threshold (firstOfEach f.cards childId) (f.time.getD s.clock)
        s.store = .ok d ∧
      s.recordDisplayed childId f = (displayedReply childId (f.time.getD s.clock) d,
        { s with tables := { s.tables with cooldowns := d.store.text } }) := by
  rcases recordDisplayed_cases s childId f with ⟨r, hrefused, hstatus⟩ | ⟨hchild, hstored⟩
  · rw [hrefused] at h
    rw [h] at hstatus
    exact absurd hstatus (by decide)
  · refine ⟨?_, hchild, hstored⟩
    cases hreach : s.reachable with
    | true => rfl
    | false =>
      have hfailed : s.recordDisplayed childId f = (.failed, s) := by
        unfold recordDisplayed
        rw [hreach]
        rfl
      rw [hfailed] at h
      cases h

theorem recordDisplayed_of_display {d : Display} (hreach : s.reachable = true)
    (hchild : (s.tables.child? childId).isSome)
    (hd : display s.settings.threshold (firstOfEach f.cards childId) (f.time.getD s.clock)
      s.store = .ok d) :
    s.recordDisplayed childId f = (displayedReply childId (f.time.getD s.clock) d,
      { s with tables := { s.tables with cooldowns := d.store.text } }) := by
  have hknown : ¬ (s.tables.child? childId).isNone = true := by
    rw [Option.isNone_iff_eq_none]
    exact Option.isSome_iff_ne_none.mp hchild
  unfold recordDisplayed
  rw [hreach, Bool.not_true, if_neg Bool.false_ne_true, if_neg hknown]
  dsimp only
  rw [hd]

/-- The same displays again, of the text that the first time left. -/
theorem display_again {threshold : Number} {cards : List (ShownCard × DisplayedCard)}
    {time : Instant} {s : Server} {d : Display} (htime : time.Supported)
    (hids : (cards.map (·.1.id)).Nodup)
    (hday : ∀ c ∈ cards, ∀ x, c.2.visibleSeconds = some x → x.WithinDay)
    (h : display threshold cards time s.store = .ok d) {s' : Server}
    (htext : s'.tables.cooldowns = d.store.text) :
    ∃ d', display threshold cards time s'.store = .ok d' ∧
      d'.recorded = d.recorded ∧ d'.notSeen = d.notSeen ∧ d'.store.text = d.store.text := by
  obtain ⟨store', hstore, rfl⟩ := (display_eq_ok htime hids hday).mp h
  obtain ⟨store'', hagain, htext'⟩ := Store.displayed_again_of_text s'.store hstore rfl htext
  exact ⟨_, (display_eq_ok htime hids hday).mpr ⟨store'', hagain, rfl⟩, rfl, rfl,
    htext'.trans htext⟩

/-- An accepted report with a time of its own changes nothing when it is sent again, and is
answered as before, whatever the clock says by then. -/
theorem displayed_again (hq : q.GoesTo (.displayed childId))
    (hform : q.form s.settings.bodyDepth DisplayedForm.check = .ok f) (htime : f.time.isSome)
    (haccepted : (s.handle q).1.status = 200) (clock : Instant) :
    let s' := { (s.handle q).2 with clock }
    (s'.handle q).1 = (s.handle q).1 ∧ (s'.handle q).2.tables = (s.handle q).2.tables := by
  intro s'
  obtain ⟨time, htime⟩ := Option.isSome_iff_exists.mp htime
  have hserve : s.serve q (.displayed childId) = s.recordDisplayed childId f := by
    rw [serve, withForm, hform]
  have hgetD (clock : Instant) : f.time.getD clock = time := by rw [htime, Option.getD_some]
  rw [handle_of_goesTo hq, hserve] at haccepted
  obtain ⟨hreach, hchild, d, hd, hstored⟩ := recordDisplayed_accepted haccepted
  have hafter : s' = { s with tables := { s.tables with cooldowns := d.store.text }, clock } := by
    change { (s.handle q).2 with clock } = _
    rw [handle_of_goesTo hq, hserve, hstored]
  have hserve' : s'.serve q (.displayed childId) = s'.recordDisplayed childId f := by
    have hform' : q.form s'.settings.bodyDepth DisplayedForm.check = .ok f := by rw [hafter, hform]
    rw [serve, withForm, hform']
  rw [hgetD] at hd
  have hleft : s'.tables.cooldowns = d.store.text := by rw [hafter]
  obtain ⟨d', hd', hrecorded, hnotSeen, htext⟩ :=
    display_again (supported_of_form hform htime) (nodup_firstOfEach f.cards childId)
      (day_of_form hform childId) hd hleft
  have hdisplay' : display s'.settings.threshold (firstOfEach f.cards childId)
      (f.time.getD s'.clock) s'.store = .ok d' := by
    have hthreshold : s'.settings.threshold = s.settings.threshold := by rw [hafter]
    rw [hthreshold, hgetD]
    exact hd'
  have hreach' : s'.reachable = true := by rw [hafter, hreach]
  have hchild' : (s'.tables.child? childId).isSome := by
    rw [hafter]
    exact hchild
  have hstored' := recordDisplayed_of_display hreach' hchild' hdisplay'
  rw [handle_of_goesTo hq, handle_of_goesTo hq, hserve, hserve', hstored, hstored', hgetD, hgetD]
  constructor
  · unfold displayedReply
    rw [hrecorded, hnotSeen]
  · rw [hafter, htext]

/-- Writing displays once more at the same time changes nothing, whatever the text held and
whichever pairs are written, and neither does sending a report again that names its time:
the stored text is the same, and so is the answer. -/
theorem repeated_reports_change_nothing :
    (∀ (store : Store) (pairs : List (String × String)) (time : Instant),
      (store.recordMany pairs time).1 = .ok () →
      (store.recordMany pairs time).2.recordMany pairs time =
          (.ok (), (store.recordMany pairs time).2) ∧
        ∀ store₁ : Store, store₁.periods = store.periods →
          store₁.text = (store.recordMany pairs time).2.text →
          (store₁.recordMany pairs time).1 = .ok () ∧
            (store₁.recordMany pairs time).2.text = store₁.text) ∧
    ∀ (s : Server) (q : Request) (childId : String) (f : DisplayedForm),
      q.GoesTo (.displayed childId) → q.form s.settings.bodyDepth DisplayedForm.check = .ok f →
      f.time.isSome → (s.handle q).1.status = 200 → ∀ clock : Instant,
        let s' := { (s.handle q).2 with clock }
        (s'.handle q).1 = (s.handle q).1 ∧ (s'.handle q).2.tables = (s.handle q).2.tables := by
  constructor
  · intro store pairs time h
    exact Store.recordMany_again h
  · intro s q childId f hq hform htime haccepted clock
    exact displayed_again hq hform htime haccepted clock

/-- The child's tables hold a text with items that are no records. -/
def mixedChild : Server :=
  { oneChild with tables := { oneChild.tables with cooldowns := some Cooldown.mixedText } }

theorem repeated_reports_change_nothing_mixed :
    let pairs := [("goal_stalled", "c1"), ("goal_at_risk", "c1"), ("goal_stalled", "c1")]
    let store := (Store.recordMany { text := some Cooldown.mixedText } pairs .epoch).2
    let report := stalledShown "c1" "1970-01-02T00:00:00Z"
    let s := { (mixedChild.handle report).2 with clock := Instant.last }
    store.recordMany pairs .epoch = (.ok (), store) ∧ (s.handle report).1.status = 200 ∧
      (s.handle report).2.tables = (mixedChild.handle report).2.tables := by
  intro pairs store report s
  have hstored : ((Store.recordMany { text := some Cooldown.mixedText } pairs .epoch).1).isOk =
      true := by
    decide +kernel
  have haccepted : (mixedChild.handle report).1.status = 200 := by decide +kernel
  have htime : (report.form mixedChild.settings.bodyDepth DisplayedForm.check).toOption.any
      (·.time.isSome) := by decide +kernel
  obtain ⟨hwrites, hreports⟩ := repeated_reports_change_nothing
  cases hdone : (Store.recordMany { text := some Cooldown.mixedText } pairs .epoch).1 with
  | error e =>
    rw [hdone] at hstored
    cases hstored
  | ok =>
    cases hread : report.form mixedChild.settings.bodyDepth DisplayedForm.check with
    | error reply => simp [hread, Except.toOption] at htime
    | ok f =>
      rw [hread] at htime
      obtain ⟨hsame, htables⟩ := hreports mixedChild report "c1" f (by decide +kernel) hread htime
        haccepted .last
      refine ⟨(hwrites _ _ _ hdone).1, ?_, htables⟩
      rw [hsame]
      exact haccepted

end Service.Server

end MomentInsights
