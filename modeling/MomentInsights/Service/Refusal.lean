-- Requests that are understood and refused. Each refusal has a code for
-- machines and a sentence for people.
import MomentInsights.Json.Value

namespace MomentInsights.Service

inductive Refusal where
  /-- Any refusal, in words. -/
  | general (message : String) (details : List (String × Json))
  | childNotFound (id : String)
  | behaviorNotFound (id : String)
  | recordExists (kind id : String)
  | batchTooLarge (limit received : Int)
  | emptyBatch
  | timeOutOfRange (field reason : String)
  /-- A record that could not be stored. -/
  | notStored (message : String) (id : Option String)
  deriving Repr

namespace Refusal

/-- The status of the reply. -/
def status : Refusal → Nat
  | general .. | notStored .. => 500
  | childNotFound _ | behaviorNotFound _ => 404
  | recordExists .. => 409
  | batchTooLarge .. | emptyBatch | timeOutOfRange .. => 422

def code : Refusal → String
  | general .. => "INTERNAL_ERROR"
  | childNotFound _ => "CHILD_NOT_FOUND"
  | behaviorNotFound _ => "BEHAVIOR_NOT_FOUND"
  | recordExists .. => "RECORD_EXISTS"
  | batchTooLarge .. => "BATCH_TOO_LARGE"
  | emptyBatch => "EMPTY_BATCH"
  | timeOutOfRange .. => "TIMESTAMP_OUT_OF_RANGE"
  | notStored .. => "INGESTION_ERROR"

def message : Refusal → String
  | general message _ => message
  | childNotFound id => s!"Child {id} does not exist."
  | behaviorNotFound id => s!"Behavior type {id} does not exist."
  | recordExists kind id => s!"A {kind} with id {id} already exists."
  | batchTooLarge limit received =>
    s!"Batch exceeds maximum size of {limit} items. Received {received}."
  | emptyBatch => "Batch must contain at least one item."
  | timeOutOfRange field reason => s!"{field}: {reason}"
  | notStored message _ => message

/-- What the refusal is about. -/
def details : Refusal → List (String × Json)
  | general _ details => details
  | childNotFound id => [("child_id", .str id)]
  | behaviorNotFound id => [("behavior_id", .str id)]
  | recordExists kind id => [("kind", .str kind), ("id", .str id)]
  | batchTooLarge limit received => [("max_items", .whole limit), ("received", .whole received)]
  | emptyBatch => []
  | timeOutOfRange field _ => [("field", .str field)]
  | notStored _ none => []
  | notStored _ (some id) => if id = "" then [] else [("id", .str id)]

/-- The body of the reply; details are left out where there are none. -/
def body (r : Refusal) : Json :=
  let details := if r.details.isEmpty then [] else [("details", Json.obj r.details)]
  .obj ([("code", .str r.code), ("message", .str r.message)] ++ details)

end Refusal

end MomentInsights.Service
