-- The bodies of replies: records, cards and reports.
import MomentInsights.Records.Tables
import MomentInsights.Report.Text

namespace MomentInsights.Service

/-! ## Records -/

def textOrNull : Option String → Json := Json.ofOption .str

def wholeOrNull : Option Int → Json := Json.ofOption .whole

/-- A stored time, without an offset. -/
def storedTime (t : Instant) : Json := .str t.plainText

def childJson (c : Child) : Json :=
  .obj [("id", .str c.id), ("name", .str c.name), ("age", wholeOrNull c.age),
    ("active_reward_id", textOrNull c.activeGoalId)]

def behaviorJson (b : Behavior) : Json :=
  .obj [("id", .str b.id), ("name", .str b.name), ("category", .str b.category.recordName),
    ("default_points", .whole b.defaultPoints), ("is_active", .bool b.active)]

def rewardJson (r : Reward) : Json :=
  .obj [("id", .str r.id), ("child_id", .str r.childId), ("name", .str r.name),
    ("target_points", .whole r.targetPoints), ("start_date", Json.ofOption storedTime r.start),
    ("due_date", Json.ofOption storedTime r.due), ("is_redeemed", .bool r.redeemed),
    ("is_expired", .bool r.expired), ("frozen_earned_points", wholeOrNull r.frozenPoints)]

/-- A moment without its note, which replies do not show. -/
def momentJson (m : Moment) : Json :=
  .obj [("id", .str m.id), ("child_id", .str m.childId), ("behavior_type_id", .str m.behaviorId),
    ("timestamp", storedTime m.time), ("points_applied", .whole m.points),
    ("reward_id", textOrNull m.rewardId), ("logged_by", textOrNull m.loggedBy)]

/-! ## Cards -/

def instantJson (t : Instant) : Json := .str t.zuluText

def historyJson (f : HistoryFilter) : Json :=
  .obj [("type_filter", .str f.type.name), ("behavior_id", textOrNull f.behaviorId),
    ("time_period", wholeOrNull f.days)]

def actionJson (a : Action) : Json :=
  .obj [("type", .str a.name), ("button_text", .str a.button), ("child_id", textOrNull a.childId?),
    ("goal_id", textOrNull a.goalId?), ("filter", Json.ofOption historyJson a.filter?)]

def localizedJson (l : Localized) : Json :=
  .obj [("title_key", .str l.titleKey), ("one_liner_key", .str l.oneLinerKey),
    ("steps_keys", Json.strings l.stepsKeys), ("why_key", .str l.whyKey),
    ("args", .obj (l.args.map fun a => (a.1, .str a.2)))]

def cardJson (c : Card) : Json :=
  .obj [("id", .str c.id), ("child_id", .str c.childId), ("priority", .whole c.priority),
    ("title", .str c.title), ("one_liner", .str c.oneLiner), ("steps", Json.strings c.steps),
    ("why_summary", .str c.why), ("localized_content", Json.ofOption localizedJson c.localized),
    ("evidence_event_ids", Json.strings c.eventIds), ("cta", actionJson c.action),
    ("expires_at", instantJson c.expires), ("template_id", .str c.templateId),
    ("evidence_window", .whole c.windowDays), ("primary_entity_id", textOrNull c.entityId),
    ("stable_key", .str c.stableKey)]

def cooldownJson (a : Cooldown.Active) : Json :=
  .obj [("template_id", .text a.templateId), ("child_id", .text a.childId),
    ("ends_at", instantJson a.ends)]

/-! ## Reports -/

/-- What a signal is about; members without a value are left out. -/
def detailsJson (d : SignalDetails) : Json :=
  let members : List (String × Option Json) :=
    [("goal_id", d.goalId.map .str), ("goal_name", d.goalName.map .str),
      ("behavior_id", d.behaviorId.map .str), ("behavior_name", d.behaviorName.map .str),
      ("days_remaining", d.daysRemaining.map .whole), ("progress", d.progress.map .num),
      ("count", d.count.map .whole), ("days_since_occurrence", d.daysSince.map .whole)]
  .obj (members.filterMap fun (name, value) => value.map (name, ·))

def signalJson (s : Signal) : Json :=
  .obj [("signal_type", .str s.kind.name), ("triggered", .bool s.triggered),
    ("confidence", .num s.confidence), ("evidence_event_ids", Json.strings s.evidence.eventIds),
    ("evidence_window", .nat s.evidence.window.days), ("evidence_count", .whole s.evidence.count),
    ("explanation", .str s.explanation), ("metadata", detailsJson s.details)]

def droppedJson (d : Dropped) : Json :=
  .obj [("card", cardJson d.card), ("reason", .str d.reason.name), ("details", .str d.details)]

def statsJson (s : DataStats) : Json :=
  .obj [("total_events_14_days", .nat s.fortnightEvents),
    ("positive_events_7_days", .nat s.weekPositives),
    ("challenge_events_7_days", .nat s.weekChallenges),
    ("routine_events_7_days", .nat s.weekRoutines), ("active_goals", .nat s.activeGoals),
    ("goals_with_deadlines", .nat s.goalsWithDeadlines), ("goals_at_risk", .nat s.goalsAtRisk),
    ("routine_behaviors", .nat s.routines)]

def traceJson (t : StageTrace) : Json :=
  .obj [("stage", .str t.stage.name), ("cards_in", .nat t.cardsIn), ("cards_out", .nat t.cardsOut)]

def reportJson (r : Report) : Json :=
  .obj [("child_id", .str r.childId), ("child_name", textOrNull r.childName),
    ("generated_at", instantJson r.generatedAt.wall),
    ("has_insufficient_data", .bool r.hasInsufficientData), ("summary", .str r.summary),
    ("data_stats", statsJson r.stats), ("stages", .arr (r.stages.map traceJson)),
    ("signal_results", .arr (r.signals.map signalJson)),
    ("built_cards", .arr (r.built.map cardJson)),
    ("dropped_cards", .arr (r.dropped.map droppedJson)),
    ("selected_cards", .arr (r.selected.map cardJson)),
    ("active_cooldowns", .arr (r.cooldowns.map cooldownJson)), ("formatted", .str r.text)]

end MomentInsights.Service
