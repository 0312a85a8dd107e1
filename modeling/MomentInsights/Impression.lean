-- Which cards a parent has really seen. A card counts as seen once it stayed on
-- screen for the threshold, or at once when the parent did something with it.
-- Each card id is recorded once, until the tracker is reset.
import MomentInsights.Engine

namespace MomentInsights

/-- A card on screen. -/
structure ShownCard where
  id : WideText
  templateId : String
  childId : String
  deriving DecidableEq, Repr

/-- What a card's rest is recorded for. -/
def ShownCard.pair (c : ShownCard) : String × String := (c.templateId, c.childId)

structure Tracker where
  /-- The seconds that a card has to be visible. -/
  threshold : Number
  /-- The cards on screen that were not recorded, and since when they are visible. -/
  visible : List (WideText × Timestamp) := []
  recorded : List WideText := []
  deriving Repr

namespace Tracker

/-- The threshold where none is set: two seconds. -/
def standardThreshold : Number := .real (Binary64.ofInt 2)

/-! ## What is known of a card -/

def isRecorded (t : Tracker) (c : ShownCard) : Bool := t.recorded.contains c.id

def since? (t : Tracker) (c : ShownCard) : Option Timestamp := t.visible.lookup c.id

/-- The card has been visible for the threshold. -/
def hasMet (t : Tracker) (c : ShownCard) (now : Timestamp) : Except Failure Bool := do
  match t.since? c with
  | none => return false
  | some since => return t.threshold.leReal (← since.spanTo now).seconds

/-- The cards that were not recorded. -/
def unrecorded (t : Tracker) (cards : List ShownCard) : List ShownCard :=
  cards.filter fun c => !t.isRecorded c

/-- The cards that were not recorded and have met the threshold. -/
def due (t : Tracker) (cards : List ShownCard) (now : Timestamp) :
    Except Failure (List ShownCard) :=
  (t.unrecorded cards).filterM (t.hasMet · now)

/-! ## What happens on screen -/

/-- Forgets since when a card is visible. -/
def hidden (t : Tracker) (c : ShownCard) : Tracker :=
  { t with visible := t.visible.filter (·.1 != c.id) }

/-- The card is visible since the given time. -/
def visibleSince (t : Tracker) (c : ShownCard) (since : Timestamp) : Tracker :=
  { t.hidden c with visible := (c.id, since) :: (t.hidden c).visible }

/-- The card came on screen. A card that is there already keeps its time. -/
def appeared (t : Tracker) (c : ShownCard) (now : Timestamp) : Tracker :=
  if t.isRecorded c || (t.since? c).isSome then t else t.visibleSince c now

/-- The card has been on screen for the last `seconds`. -/
def visibleFor (t : Tracker) (c : ShownCard) (seconds : Number) (now : Timestamp) :
    Except Failure Tracker := do
  if t.isRecorded c then return t
  let back ← (← Duration.ofSeconds seconds).neg
  return t.visibleSince c (now.shift back)

/-- The card is recorded, and its time on screen forgotten. -/
def mark (t : Tracker) (c : ShownCard) : Tracker :=
  { t.hidden c with recorded := c.id :: t.recorded }

/-- Forgets all cards. -/
def reset (t : Tracker) : Tracker := { threshold := t.threshold }

end Tracker

/-! ## Recording -/

/-- A tracker, and the store in which it starts the rests of seen cards. -/
structure Impressions where
  tracker : Tracker
  store : Cooldown.Store
  deriving Repr

namespace Impressions

/-- Records the cards as shown at the time. The cards are marked first, so they
stay marked where the store fails. -/
def record (s : Impressions) (cards : List ShownCard) (now : Timestamp) :
    Except Failure Unit × Impressions :=
  let tracker := cards.foldl Tracker.mark s.tracker
  let (done, store) := Engine.recordDisplayed (cards.map ShownCard.pair) s.store now
  (done, ⟨tracker, store⟩)

/-- Records cards and answers with them. -/
def recordThem (s : Impressions) (cards : List ShownCard) (now : Timestamp) :
    Except Failure (List ShownCard) × Impressions :=
  let (done, s) := s.record cards now
  (done.map fun _ => cards, s)

/-- The parent did something with the card, which counts as seen at once. -/
def interacted (s : Impressions) (c : ShownCard) (now : Timestamp) :
    Except Failure Unit × Impressions :=
  s.record (s.tracker.unrecorded [c]) now

/-- Records the cards that have met the threshold, and answers with them. -/
def recordDue (s : Impressions) (cards : List ShownCard) (now : Timestamp) :
    Except Failure (List ShownCard) × Impressions :=
  match s.tracker.due cards now with
  | .error f => (.error f, s)
  | .ok due => s.recordThem due now

/-- Records the cards however long they were visible, and answers with those
that were not recorded before. -/
def recordAll (s : Impressions) (cards : List ShownCard) (now : Timestamp) :
    Except Failure (List ShownCard) × Impressions :=
  s.recordThem (s.tracker.unrecorded cards) now

end Impressions

/-! ## Laws of the tracker -/

namespace Tracker

theorem isRecorded_mark (t : Tracker) (c d : ShownCard) :
    (t.mark c).isRecorded d = (d.id == c.id || t.isRecorded d) := by
  simp only [mark, isRecorded, List.contains_cons, hidden]

/-- A hidden card has no time on screen. -/
theorem since?_hidden (t : Tracker) (c : ShownCard) : (t.hidden c).since? c = none := by
  simp only [since?, hidden, List.lookup_eq_none_iff, List.mem_filter, bne_iff_ne, ne_eq]
  intro p hp
  simpa using fun h => hp.2 h.symm

theorem since?_visibleSince (t : Tracker) (c : ShownCard) (since : Timestamp) :
    (t.visibleSince c since).since? c = some since := by
  simp [since?, visibleSince]

end Tracker

end MomentInsights
