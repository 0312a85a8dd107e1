-- Storing records. A single record is stored whole or not at all; the moments
-- of a batch are stored one by one.
import MomentInsights.Service.Body
import MomentInsights.Service.Form
import MomentInsights.Service.Reply
import MomentInsights.Service.State
import MomentInsights.Time.Unix

namespace MomentInsights.Service

/-- A whole number that a row can hold. -/
def isStorable (n : Int) : Bool := fitsWord n

/-- The instant of a time that may be missing, if UTC can show it. -/
def instant? : Option Timestamp → Option (Option Instant)
  | none => some none
  | some t => t.utc.toOption.map some

/-- The row of a reward, if every field can be stored. -/
def RewardForm.reward? (f : RewardForm) (id : String) (created : Instant) : Option Reward := do
  let start ← instant? f.start
  let due ← instant? f.due
  if !isStorable (f.frozenPoints.getD 0) then none
  return {
    id, childId := f.childId, name := f.name, targetPoints := f.targetPoints, start, due
    redeemed := f.redeemed, expired := f.expired, frozenPoints := f.frozenPoints, created }

/-- The points of a moment: those given, or else those of its behavior, taken
off for a negative one. -/
def MomentForm.pointsWith (f : MomentForm) (b : Option Behavior) : Option Int :=
  match f.points, b with
  | some n, _ => some n
  | none, none => none
  | none, some b =>
    let n : Int := b.defaultPoints.natAbs
    some (if b.category = .negative then -n else n)

/-- What became of a moment of a batch. -/
inductive Logged where
  | stored (m : Moment)
  | refused (r : Refusal)
  deriving Repr

namespace Server

/-! ## Single records -/

def storeChild (s : Server) (f : ChildForm) : Reply × Server :=
  let (id, s) := s.idFor f.id
  if !s.reachable then (.failed, s)
  else if (s.tables.child? id).isSome then (.refused (.recordExists "child" id), s)
  else
    let c : Child := ⟨id, f.name, f.age, none⟩
    (.json 201 (childJson c), { s with tables := s.tables.addChild c })

def storeBehavior (s : Server) (f : BehaviorForm) : Reply × Server :=
  let (id, s) := s.idFor f.id
  if !s.reachable then (.failed, s)
  else if (s.tables.behavior? id).isSome then (.refused (.recordExists "behavior type" id), s)
  else
    let b : Behavior := ⟨id, f.name, f.category, f.defaultPoints, f.active⟩
    (.json 201 (behaviorJson b), { s with tables := s.tables.addBehavior b })

/-- The tables with a new reward, which may become the active one. -/
def withReward (t : Tables) (r : Reward) (active : Bool) : Tables :=
  if active then (t.addReward r).activate r.childId r.id else t.addReward r

def storeReward (s : Server) (f : RewardForm) : Reply × Server :=
  if !s.reachable then (.failed, s)
  else if (s.tables.child? f.childId).isNone then (.refused (.childNotFound f.childId), s)
  else
    let (id, s) := s.idFor f.id
    if (s.tables.reward? id).isSome then (.refused (.recordExists "reward" id), s)
    else
      match f.reward? id s.clock.wholeSecond with
      | none => (.failed, s)
      | some r =>
        (.json 201 (rewardJson r), { s with tables := withReward s.tables r f.makeActive })

/-! ## Batches of moments -/

/-- Stores or refuses one moment; none, if its values cannot be stored. -/
def logMoment (s : Server) (f : MomentForm) : Option Logged × Server :=
  if (s.tables.child? f.childId).isNone then (some (.refused (.childNotFound f.childId)), s)
  else
    let (id, s) := s.idFor f.id
    if (s.tables.moment? id).isSome then (some (.refused (.recordExists "moment" id)), s)
    else
      match f.time.utc, f.pointsWith (s.tables.behavior? f.behaviorId) with
      | .error _, _ => (none, s)
      | .ok _, none => (some (.refused (.behaviorNotFound f.behaviorId)), s)
      | .ok time, some points =>
        if isStorable points then
          let m : Moment :=
            ⟨id, f.childId, f.behaviorId, time, points, f.rewardId, f.loggedBy, f.note⟩
          (some (.stored m), { s with tables := s.tables.addMoment m })
        else (none, s)

/-- The moments of a batch in order, up to the first whose values cannot be
stored. What was stored before it stays. -/
def logMoments (s : Server) : List MomentForm → Option (List Logged) × Server
  | [] => (some [], s)
  | f :: fs =>
    match s.logMoment f with
    | (none, s) => (none, s)
    | (some first, s) =>
      let (rest, s) := s.logMoments fs
      (rest.map (first :: ·), s)

/-- A moment of the reply, with its place in the batch. -/
def loggedJson : Logged × Nat → Json
  | (.stored m, i) =>
    .obj [("index", .nat i), ("ok", .bool true), ("moment", momentJson m), ("code", .null),
      ("error", .null)]
  | (.refused r, i) =>
    .obj [("index", .nat i), ("ok", .bool false), ("moment", .null), ("code", .str r.code),
      ("error", .str r.message)]

def isStored : Logged → Bool
  | .stored _ => true
  | .refused _ => false

def batchReply (logged : List Logged) : Reply :=
  .json 207 <| .obj [
    ("total", .nat logged.length),
    ("succeeded", .nat (logged.countP isStored)),
    ("failed", .nat (logged.countP (!isStored ·))),
    ("items", .arr (logged.zipIdx.map loggedJson))]

def storeBatch (s : Server) (fs : List MomentForm) : Reply × Server :=
  if fs.isEmpty then (.refused .emptyBatch, s)
  else if s.settings.batchLimit < fs.length then
    (.refused (.batchTooLarge s.settings.batchLimit fs.length), s)
  else if !s.reachable then (.failed, s)
  else
    match s.logMoments fs with
    | (none, s) => (.failed, s)
    | (some logged, s) => (batchReply logged, s)

end Server

end MomentInsights.Service
