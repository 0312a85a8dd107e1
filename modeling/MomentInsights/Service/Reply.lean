-- Replies: a status and a body.
import MomentInsights.Service.Fault
import MomentInsights.Service.Refusal

namespace MomentInsights.Service

inductive Content where
  | json (j : Json)
  | text (s : String)
  deriving Repr

structure Reply where
  status : Nat
  content : Content
  deriving Repr

namespace Reply

def json (status : Nat) (j : Json) : Reply := ⟨status, .json j⟩

/-- The request belongs to the same path without the slashes at its end. -/
def redirected : Reply := ⟨307, .text ""⟩

/-! ## Failures -/

def detail (status : Nat) (sentence : String) : Reply :=
  json status (.obj [("detail", .str sentence)])

def notFound : Reply := detail 404 "Not Found"

def wrongMethod : Reply := detail 405 "Method Not Allowed"

def unreadableBody : Reply := detail 400 "There was an error parsing the body"

def refused (r : Refusal) : Reply := json r.status r.body

/-- Something failed that no request should make fail. -/
def failed : Reply := refused (.general "An unexpected error occurred." [])

/-- The reply as it is sent. A body that cannot be encoded is a failure. -/
def encoded (r : Reply) : Reply :=
  match r.content with
  | .json j => if j.isEncodable then r else failed
  | .text _ => r

def problemJson (p : Problem) : Json :=
  .obj [("field", .str p.field), ("message", .str p.fault.message), ("type", .str p.fault.kind)]

/-- The request does not have the right form. -/
def invalid (problems : List Problem) : Reply :=
  json 422 <| .obj [
    ("code", .str "VALIDATION_ERROR"),
    ("message", .str "Request validation failed."),
    ("details", .obj [("errors", .arr (problems.map problemJson))])]

end Reply

end MomentInsights.Service
