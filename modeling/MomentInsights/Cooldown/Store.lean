-- The cooldown store: one stored text, read through a cache. Every write reads
-- the text anew, replaces it, and leaves its own records in the cache. A write
-- that fails leaves the store as it found it.
import MomentInsights.Cooldown.Codec

namespace MomentInsights.Cooldown

structure Store where
  periods : Periods := .standard
  room : Room := .standard
  /-- Reading for a write puts an empty array where no text is stored. -/
  seeds : Bool := false
  text : Option String := none
  cache : Option (List Record) := none
  deriving Repr

namespace Store

/-! ## Reading -/

/-- The records, from the cache or else from the text, and the store with them
cached. -/
def records (s : Store) : Except Failure (List Record × Store) :=
  match s.cache with
  | some rs => .ok (rs, s)
  | none => do
    let rs ← decode s.periods s.room s.text
    return (rs, { s with cache := some rs })

/-- The record of a template and a child. -/
def find? (rs : List Record) (templateId childId : String) : Option Record :=
  rs.find? (·.isFor (templateId, childId))

/-- When the rest of the template ends for the child. -/
def cooldownEnd (s : Store) (templateId childId : String) :
    Except Failure (Option Instant × Store) := do
  let (rs, s) ← s.records
  return ((find? rs templateId childId).map s.periods.endOf, s)

/-- The template rests for the child. The time matters only where there is a
record; a time that is no instant fails with the cache already filled. -/
def isOnCooldown (s : Store) (templateId childId : String) (now : Timestamp) :
    Except Failure Bool × Store :=
  match s.cooldownEnd templateId childId with
  | .error f => (.error f, s)
  | .ok (none, s) => (.ok false, s)
  | .ok (some ends, s) => (now.utc.map (· < ends), s)

/-- Order by child, then by template. -/
def Active.le (a b : Active) : Bool :=
  ((compare a.childId b.childId).then (compare a.templateId b.templateId)).isLE

/-- The rests that have not ended, in order. -/
def activeOf (p : Periods) (rs : List Record) (now : Instant) : List Active :=
  let all := rs.map fun r => Active.mk r.templateId r.childId (p.endOf r)
  (all.filter fun a => now < a.ends).mergeSort Active.le

def active (s : Store) (now : Instant) : Except Failure (List Active × Store) := do
  let (rs, s) ← s.records
  return (activeOf s.periods rs now, s)

/-! ## Writing -/

/-- The store as a writer finds it. -/
def locked (s : Store) : Store :=
  if s.seeds && s.text.isNone then { s with text := some "[]" } else s

/-- The store after the records were written. -/
def save (s : Store) (rs : List Record) : Store :=
  { s with text := some (encode rs), cache := some rs }

/-- The records after `pairs` were shown at `time`: their old records give way
to new ones at the end, and records out of retention are dropped. -/
def recorded (p : Periods) (rs : List Record) (pairs : List (String × String)) (time : Instant) :
    Except Failure (List Record) := do
  let pairs := pairs.eraseDups
  let others := rs.filter fun r => !pairs.any r.isFor
  let cutoff := time.shift (← p.retention.neg)
  return (others ++ pairs.map (Record.ofPair · time)).filter fun r => cutoff < r.shown

/-- Records that the pairs were shown. A time whose rest would end after the
last instant is not recorded, and nothing is written. -/
def recordMany (s : Store) (pairs : List (String × String)) (time : Instant) :
    Except Failure Unit × Store :=
  if !s.periods.hasEnd time then (.ok (), s)
  else
    let s := s.locked
    match (do recorded s.periods (← decode s.periods s.room s.text) pairs time) with
    | .ok rs => (.ok (), s.save rs)
    | .error f => (.error f, s)

def recordShown (s : Store) (templateId childId : String) (time : Instant) :
    Except Failure Unit × Store :=
  s.recordMany [(templateId, childId)] time

/-- Drops the text. -/
def clearAll (s : Store) : Store := { s with text := none, cache := none }

/-- Drops the records of a child. -/
def clearChild (s : Store) (childId : String) : Except Failure Store := do
  let s := s.locked
  let rs ← decode s.periods s.room s.text
  return s.save (rs.filter fun r => r.childId != .ofString childId)

/-- Forgets the cache. -/
def invalidate (s : Store) : Store := { s with cache := none }

end Store

end MomentInsights.Cooldown
