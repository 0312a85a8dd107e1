-- One evaluation for one child at one time: detect, build, check, filter, rank.
-- An evaluation reads the cooldown store and never writes it; only the display
-- of cards does.
import MomentInsights.Card.Build
import MomentInsights.Evidence
import MomentInsights.Report.Basic
import MomentInsights.Signal.Detect

namespace MomentInsights

/-- What is known: the records of each child, and the behaviors of all. -/
structure Source where
  child : String → Option Child
  events : String → List Event
  goals : String → List Goal
  /-- The active routines. -/
  routines : List Behavior
  behaviors : List Behavior

/-- Records held in lists. -/
structure Roster where
  children : List Child
  events : List Event
  goals : List Goal
  behaviors : List Behavior
  deriving Repr

namespace Roster

/-- The records of each child; of two children with one id the later counts. -/
def source (r : Roster) : Source :=
  { child := fun id => r.children.reverse.find? (fun c => c.id == id)
    events := fun id => r.events.filter (fun e => e.childId == id)
    goals := fun id => r.goals.filter (fun g => g.childId == id)
    routines := r.behaviors.filter (fun b => b.active && b.isRoutine)
    behaviors := r.behaviors }

end Roster

namespace Engine

/-- The sizes of a child's data. -/
def statsOf (t : Timeline) (goals : List Goal) (routines : List Behavior) :
    Except Failure DataStats := do
  let active := Goal.activeOnly goals
  let atRisk ← Goal.atRisk active t.now
  return {
    fortnightEvents := t.fortnight.length
    weekPositives := t.positiveWeek.length
    weekChallenges := t.challengesWeek.length
    weekRoutines := t.routinesWeek.length
    activeGoals := active.length
    goalsWithDeadlines := (Goal.withDeadlines active).length
    goalsAtRisk := atRisk.length
    routines := routines.length }

/-- The stages from the signals to the selection, added to the report. -/
def select (child : Child) (t : Timeline) (store : Cooldown.Store) (r : Report) :
    Except Failure (Report × Cooldown.Store) := do
  let triggered := r.triggered
  let built ← triggered.mapM fun s => Card.ofSignal s child t.now
  let valid := Evidence.valid t.eventIds built
  let invalid := Evidence.invalid t.eventIds built
  let (safe, railDrops) := Ranking.safetyRails valid
  let (available, cooldownDrops, store) ←
    Ranking.withoutCooldown (Timestamp.ofInstant t.now) safe store
  let (selected, cut) := Ranking.truncate available maxCards
  let stages : List StageTrace := [
    ⟨.detecting, r.signals.length, triggered.length⟩,
    ⟨.building, triggered.length, built.length⟩,
    ⟨.validating, built.length, valid.length⟩,
    ⟨.safetyFiltering, valid.length, safe.length⟩,
    ⟨.cooldownFiltering, safe.length, available.length⟩,
    ⟨.ranking, available.length, selected.length⟩,
    ⟨.done, selected.length, selected.length⟩]
  return ({ r with
    built
    dropped := (invalid.map fun (c, f) => ⟨c, .evidenceInvalid, f.message⟩) ++
      railDrops ++ cooldownDrops ++ cut
    selected
    stages }, store)

/-- The report of an evaluation, and the store with its cache filled. -/
def run (src : Source) (store : Cooldown.Store) (childId : String) (now : Instant) :
    Except Failure (Report × Cooldown.Store) := do
  match src.child childId with
  | none =>
    return ({
      childId
      childName := none
      generatedAt := Timestamp.ofInstant now
      stages := [⟨.noChild, 0, 0⟩] }, store)
  | some child =>
    let t := Timeline.ofEvents (src.events childId) now
    let goals := src.goals childId
    let signals ← Detect.all goals src.routines t
    let (active, store) ← store.active now
    let stats ← statsOf t goals src.routines
    let report : Report := {
      childId
      childName := some child.name
      generatedAt := Timestamp.ofInstant now
      signals
      cooldowns := active.filter (fun a => a.childId == .ofString childId)
      stats }
    if t.fortnight.length < minEvents then
      return ({ report with
        selected := [Card.insufficientData child t.fortnight.length now]
        stages := [⟨.insufficientData, 0, 1⟩] }, store)
    else select child t store report

/-- The cards to show, at most six, in rank order. -/
def generate (src : Source) (store : Cooldown.Store) (childId : String) (now : Instant) :
    Except Failure (List Card × Cooldown.Store) := do
  let (report, store) ← run src store childId now
  return (report.selected, store)

/-- Starts the rests of the cards that were shown; the cards are given by
template and child. Showing none changes nothing. -/
def recordDisplayed (pairs : List (String × String)) (store : Cooldown.Store) (time : Timestamp) :
    Except Failure Unit × Cooldown.Store :=
  if pairs.isEmpty then (.ok (), store)
  else
    match time.utc with
    | .ok time => Ranking.recordShown pairs store time
    | .error f => (.error f, store)

end Engine

end MomentInsights
