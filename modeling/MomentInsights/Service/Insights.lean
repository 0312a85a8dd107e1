-- Cards, reports and cooldowns of the stored records, and the report of the
-- cards that were displayed.
import MomentInsights.Service.Body
import MomentInsights.Service.Form
import MomentInsights.Service.Reply
import MomentInsights.Service.State

namespace MomentInsights.Service

/-! ## Displayed cards -/

/-- The card as it is tracked: by its id, or without one by its template. -/
def DisplayedCard.shown (d : DisplayedCard) (childId : String) : ShownCard :=
  let id : WideText := match d.id with
    | some id => if id.points.isEmpty then d.templateId else id
    | none => d.templateId
  ⟨id, d.templateId, childId⟩

/-- The card counts as seen however long it was visible. -/
def DisplayedCard.isSeen (d : DisplayedCard) : Bool := d.interacted || d.visibleSeconds.isNone

/-- The cards, the first of each id. -/
def firstOfEach (cards : List DisplayedCard) (childId : String) :
    List (ShownCard × DisplayedCard) :=
  (cards.map fun d => (d.shown childId, d)).eraseDupsBy fun a b => a.1.id == b.1.id

def inOrder [Ord α] (xs : List α) : List α := xs.mergeSort fun a b => (compare a b).isLE

/-- What became of the displayed cards: those recorded and those visible too
shortly, and the store with the rests of the first. -/
structure Display where
  recorded : List ShownCard
  notSeen : List ShownCard
  store : Cooldown.Store

/-- Tracks the displayed cards at the given time: the seen ones first, then
those with a time on screen. -/
def display (threshold : Number) (cards : List (ShownCard × DisplayedCard)) (time : Instant)
    (store : Cooldown.Store) : Except Failure Display := do
  let now := Timestamp.ofInstant time
  let seen := (cards.filter (·.2.isSeen)).map (·.1)
  let timed := cards.filter (!·.2.isSeen)
  let tracker ← timed.foldlM
    (fun t c => t.visibleFor c.1 (.real (c.2.visibleSeconds.getD .zero)) now)
    (Tracker.mk threshold [] [])
  let timed := timed.map (·.1)
  let (first, s) := Impressions.recordAll ⟨tracker, store⟩ seen now
  let first ← first
  let (second, s) := s.recordDue timed now
  let second ← second
  return ⟨first ++ second, s.tracker.unrecorded timed, s.store⟩

namespace Server

/-! ## When -/

/-- The time that the query asks about, by default the present. -/
def evaluationTime (s : Server) (query : List (String × String)) : Except Reply Instant :=
  match query.lookup "now" with
  | none => .ok s.clock
  | some text =>
    match Field.timeOfText text with
    | .error fault => .error (.invalid [⟨"query.now", fault⟩])
    | .ok t =>
      match t.supported with
      | .ok now => .ok now
      | .error f => .error (.refused (.timeOutOfRange "now" f.message))

/-- The reply that the tables give at the time that the query asks about. -/
def evaluate (s : Server) (query : List (String × String))
    (answer : Instant → Except Failure Reply) : Reply :=
  match s.evaluationTime query with
  | .error reply => reply
  | .ok now =>
    if !s.reachable then .failed
    else
      match answer now with
      | .ok reply => reply
      | .error _ => .failed

/-! ## What -/

def cards (s : Server) (childId : String) (now : Instant) : Except Failure Reply := do
  let (cards, _) ← Engine.generate (s.tables.source now) s.store childId now
  return .json 200 <| .obj [
    ("child_id", .str childId),
    ("generated_at", instantJson now),
    ("count", .nat cards.length),
    ("cards", .arr (cards.map cardJson))]

def report (s : Server) (childId : String) (now : Instant) : Except Failure Report := do
  let (report, _) ← Engine.run (s.tables.source now) s.store childId now
  return report

/-- The report as text, unless it names what cannot be encoded. -/
def reportText (r : Report) : Reply :=
  if (reportJson r).isEncodable then ⟨200, .text r.text⟩ else .failed

def cooldowns (s : Server) (now : Instant) : Except Failure Reply := do
  let (active, _) ← s.store.active now
  return .json 200 <| .obj [
    ("now", instantJson now),
    ("cooldowns", .arr (active.map cooldownJson))]

def displayedReply (childId : String) (time : Instant) (d : Display) : Reply :=
  .json 200 <| .obj [
    ("child_id", .str childId),
    ("recorded", Json.strings (inOrder (d.recorded.map (·.templateId)).eraseDups)),
    ("not_seen", .arr ((inOrder (d.notSeen.map (·.id))).map Json.text)),
    ("at", instantJson time)]

/-- Records the displayed cards of a child. -/
def recordDisplayed (s : Server) (childId : String) (f : DisplayedForm) : Reply × Server :=
  if !s.reachable then (.failed, s)
  else if (s.tables.child? childId).isNone then (.refused (.childNotFound childId), s)
  else
    let time := f.time.getD s.clock
    match display s.settings.threshold (firstOfEach f.cards childId) time s.store with
    | .error _ => (.failed, s)
    | .ok d =>
      (displayedReply childId time d,
        { s with tables := { s.tables with cooldowns := d.store.text } })

end Server

end MomentInsights.Service
