-- The report as text, section by section.
import MomentInsights.Number.Binary64
import MomentInsights.Report.Basic

namespace MomentInsights.Report

/-- The text, unless it is missing or empty. -/
def named (s : Option String) (or : String) : String :=
  match s with
  | some t => if t = "" then or else t
  | none => or

/-- A confidence as a whole percentage. -/
def percentText : Number → String
  | .whole n => (Binary64.ofInt (n * 100)).fixed 0 ++ "%"
  | .real x => (x * Binary64.ofInt 100).fixed 0 ++ "%"

/-! ## Lines -/

def headLines (r : Report) : List String :=
  let child := named r.childName "Unknown"
  [ "=== INSIGHTS ENGINE DEBUG REPORT ===",
    s!"Generated: {r.generatedAt.wall.minuteText}",
    s!"Child: {child} ({r.childId})",
    s!"Pipeline: {r.summary}",
    "" ]

def statsLines (r : Report) : List String :=
  let s := r.stats
  [ "--- DATA STATS ---",
    s!"Events (14 days): {s.fortnightEvents}",
    s!"  Positive (7 days): {s.weekPositives}",
    s!"  Challenges (7 days): {s.weekChallenges}",
    s!"  Routines (7 days): {s.weekRoutines}",
    s!"Active Goals: {s.activeGoals}",
    s!"  With deadline: {s.goalsWithDeadlines}",
    s!"  Behind needed pace: {s.goalsAtRisk}",
    s!"Routine Behaviors: {s.routines}" ] ++
  (if r.hasInsufficientData then ["Insufficient data for insights"] else []) ++ [""]

def signalLine (s : Signal) : String :=
  let fields :=
    if s.triggered then ["YES", percentText s.confidence, toString s.evidence.count]
    else ["no", "-", "-"]
  let entity := named s.details.goalName (named s.details.behaviorName "-")
  "| " ++ " | ".intercalate ([s.kind.name] ++ fields ++ [entity]) ++ " |"

def signalLines (r : Report) : List String :=
  [ "--- SIGNAL RESULTS ---",
    "| Signal | Triggered | Confidence | Evidence | Entity |",
    "|--------|-----------|------------|----------|--------|" ] ++
  r.signals.map signalLine ++ [""]

def missLines (r : Report) : List String :=
  if r.notTriggered.isEmpty then []
  else
    ["--- NOT TRIGGERED REASONS ---"] ++
    r.notTriggered.map (fun s => s!"[{s.kind.name}] {s.explanation}") ++ [""]

def builtLines (r : Report) : List String :=
  [s!"--- BUILT CARDS ({r.built.length}) ---"] ++
  r.built.map (fun c => s!"[{c.templateId}] P{c.priority} | {c.title}") ++ [""]

def droppedLines (r : Report) : List String :=
  if r.dropped.isEmpty then []
  else
    [s!"--- DROPPED CARDS ({r.dropped.length}) ---"] ++
    r.dropped.flatMap (fun d =>
      [s!"[{d.card.templateId}] {d.reason.label}", s!"  Details: {d.details}"]) ++ [""]

/-- A selected card with its place in the order. -/
def cardLines (place : Nat) (c : Card) : List String := [
  s!"{place}. {c.title}",
  s!"   Template: {c.templateId}",
  s!"   Priority: {c.priority}",
  s!"   Evidence: {c.eventIds.length} events",
  s!"   StableKey: {c.stableKey}",
  s!"   CTA: {c.action.button}",
  ""]

def selectedLines (r : Report) : List String :=
  [s!"--- SELECTED CARDS ({r.selected.length}) ---"] ++
  (r.selected.zipIdx 1).flatMap (fun (c, place) => cardLines place c)

def cooldownLines (r : Report) : List String :=
  [s!"--- ACTIVE COOLDOWNS ({r.cooldowns.length}) ---"] ++
  (if r.cooldowns.isEmpty then ["(none)"]
   else r.cooldowns.map fun a => s!"[{a.templateId.shown}] ends {a.ends.minuteText}")

def stageLines (r : Report) : List String :=
  if r.stages.isEmpty then []
  else
    ["", "--- PIPELINE STAGES ---"] ++
    r.stages.map fun t => s!"{t.stage.name}: {t.cardsIn} -> {t.cardsOut}"

/-- The whole text. -/
def text (r : Report) : String :=
  "\n".intercalate (r.headLines ++ r.statsLines ++ r.signalLines ++ r.missLines ++ r.builtLines ++
    r.droppedLines ++ r.selectedLines ++ r.cooldownLines ++ r.stageLines ++ ["", "=== END REPORT ==="])

end MomentInsights.Report
