-- The service between two requests, and what can be set from outside.
import MomentInsights.Impression
import MomentInsights.Records.Tables
import MomentInsights.Text.Characters

namespace MomentInsights.Service

/-! ## Settings -/

structure Settings where
  /-- The environment that the service says it runs in. -/
  environment : String := "development"
  /-- The key of the stored cooldown text. -/
  cooldownKey : String := "insightsEngine.cooldowns"
  /-- The seconds after which a card counts as seen. -/
  threshold : Number := Tracker.standardThreshold
  /-- The most moments of one batch. -/
  batchLimit : Int := 500
  /-- How deep a body may nest. -/
  bodyDepth : Nat := 900
  /-- How deep the stored cooldown text may nest. -/
  room : Cooldown.Room := .standard
  deriving Repr

/-- The origins that a setting allows: a lone star for all, or a list between
commas. -/
def origins (setting : String) : List String :=
  if Text.trim setting = "*" then ["*"]
  else ((setting.splitOn ",").map Text.trim).filter (· ≠ "")

/-! ## The service -/

structure Server where
  settings : Settings := {}
  clock : Instant
  /-- The tables can be reached. -/
  reachable : Bool := true
  /-- How many ids were made up. -/
  issued : Nat := 0
  tables : Tables := {}
  deriving Repr

namespace Server

/-- The cooldown store over the stored text, with nothing read yet. -/
def store (s : Server) : Cooldown.Store :=
  { room := s.settings.room, seeds := true, text := s.tables.cooldowns }

/-- The id that was given, or the next one that the service makes up. -/
def idFor (s : Server) : Option String → String × Server
  | some id => (id, s)
  | none => (s!"gen-{s.issued + 1}", { s with issued := s.issued + 1 })

end Server

end MomentInsights.Service
