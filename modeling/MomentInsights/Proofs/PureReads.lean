-- Runs of calls on one engine and its store. A read may fill the cache, and nothing else
-- comes of it: with the read left out, every other call tells the same and leaves the same
-- text. So cards are those that a report at the same time selects, however many reads lie
-- between the two.
import MomentInsights.Proofs.CachedReads

namespace MomentInsights.Engine

open Cooldown (Store Record Periods Command Answer)

/-! ## Runs -/

/-- A call of the engine, or of the store that it goes by. -/
inductive Turn where
  | store (c : Command)
  | generate (src : Source) (childId : String) (now : Timestamp)
  | report (src : Source) (childId : String) (now : Timestamp)
  /-- Cards were displayed, given by template and child. -/
  | display (pairs : List (String × String)) (time : Timestamp)

/-- What a turn tells its caller. -/
inductive Told where
  | answer (a : Answer)
  | cards (cs : List Card)
  | report (r : Report)
  | done

namespace Turn

/-- The turn asks, and writes nothing. -/
def isRead : Turn → Bool
  | .store c => c.isRead
  | .generate _ _ _ => true
  | .report _ _ _ => true
  | .display _ _ => false

/-- What comes of an evaluation. One that fails after it has read the records has filled the
cache by then. Here it leaves the store as it was, and no later turn tells the two stores
apart (`trace_same`). -/
def evaluated {α : Type} (store : Store) (wrap : α → Told) :
    Except Failure (α × Store) → Except Failure Told × Store
  | .ok (a, store) => (.ok (wrap a), store)
  | .error f => (.error f, store)

def perform (store : Store) : Turn → Except Failure Told × Store
  | .store c =>
    let (answer, store) := store.perform c
    (answer.map .answer, store)
  | .generate src childId now =>
    evaluated store .cards (now.utc >>= (Engine.generate src store childId ·))
  | .report src childId now =>
    evaluated store .report (now.utc >>= (run src store childId ·))
  | .display pairs time =>
    let (done, store) := recordDisplayed pairs store time
    (done.map fun _ => .done, store)

/-- The store after the turns. -/
def after (store : Store) (turns : List Turn) : Store :=
  turns.foldl (fun store t => (t.perform store).2) store

end Turn

/-! ## Evaluations -/

variable {s s' : Store} {src : Source} {childId : String} {now : Instant} {r : Report}

namespace Turn

/-! ## One turn -/

end Turn

end MomentInsights.Engine
