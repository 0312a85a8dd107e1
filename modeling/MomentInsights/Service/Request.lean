-- Requests: a method, a path, the query, and a body that is read as JSON.
import MomentInsights.Json.Reader
import MomentInsights.Service.Checked
import MomentInsights.Service.Reply
import MomentInsights.Text.Encoding
import MomentInsights.Text.Utf8

namespace MomentInsights.Service

/-- What a request carries: nothing, a value, or text that has to be read. -/
inductive Payload where
  | absent
  | value (j : Json)
  | text (s : String)
  deriving Repr

structure Request where
  method : String
  path : String
  query : List (String × String)
  payload : Payload
  deriving Repr

namespace Request

/-- The text without a byte order mark at its front. -/
def withoutMark (s : String) : String :=
  match s.toList with
  | c :: cs => if c.toNat = 0xFEFF then String.ofList cs else s
  | [] => s

/-- The text of a body that was sent as text. Zeros among its first bytes tell
that it is encoded once more. -/
def decoded? (s : String) : Option WideText :=
  let bytes := Text.toUtf8 s
  match Text.Encoding.ofBytes bytes with
  | .utf8 => some (withoutMark s)
  | encoding => encoding.wide? bytes

/-- The body as a value that nests no deeper than `depth`, if there is one. Empty text
is none. -/
def body (q : Request) (depth : Nat) : Except Reply (Option Json) :=
  match q.payload with
  | .absent => .ok none
  | .value j => .ok (some j)
  | .text "" => .ok none
  | .text s =>
    match Json.read depth <$> decoded? s with
    | some (.ok j) => .ok (some j)
    | some (.error (.malformed position)) => .error (.invalid [⟨toString position, .notJson⟩])
    | _ => .error .unreadableBody

/-- The body, checked. -/
def form (q : Request) (depth : Nat) (check : Json → Checked α) : Except Reply α := do
  match ← q.body depth with
  | none => throw (.invalid [⟨"", .missing⟩])
  | some j =>
    match check j with
    | .good a => return a
    | .bad problems => throw (.invalid problems)

end Request

end MomentInsights.Service
