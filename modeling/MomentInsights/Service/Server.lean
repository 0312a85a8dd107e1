-- One request after another: each gives a reply and leaves the service in its
-- next state.
import MomentInsights.Service.Insights
import MomentInsights.Service.Path
import MomentInsights.Service.Recording
import MomentInsights.Service.Request

namespace MomentInsights.Service.Server

def health (s : Server) : Reply :=
  if s.reachable then
    .json 200 <| .obj [
      ("status", .str "ok"), ("db", .str "ok"), ("env", .str s.settings.environment)]
  else .json 503 <| .obj [("status", .str "error"), ("db", .str "unreachable")]

/-- Hands the checked body of the request on. -/
def withForm (s : Server) (q : Request) (check : Json → Checked α)
    (act : α → Reply × Server) : Reply × Server :=
  match q.form s.settings.bodyDepth check with
  | .ok a => act a
  | .error reply => (reply, s)

/-- The reply of a place to a request with its method. -/
def serve (s : Server) (q : Request) : Route → Reply × Server
  | .health => (s.health, s)
  | .children => s.withForm q ChildForm.check s.storeChild
  | .behaviors => s.withForm q BehaviorForm.check s.storeBehavior
  | .rewards => s.withForm q RewardForm.check s.storeReward
  | .momentBatch => s.withForm q checkBatch s.storeBatch
  | .cooldowns => (s.evaluate q.query s.cooldowns, s)
  | .cards childId => (s.evaluate q.query (s.cards childId), s)
  | .displayed childId => s.withForm q DisplayedForm.check (s.recordDisplayed childId)
  | .debug childId =>
    (s.evaluate q.query fun now => return .json 200 (reportJson (← s.report childId now)), s)
  | .debugText childId =>
    (s.evaluate q.query fun now => return reportText (← s.report childId now), s)

/-- The reply to a request, and the service after it. A place that was served
stays served where its reply cannot be encoded. -/
def handle (s : Server) (q : Request) : Reply × Server :=
  let path := decodePath q.path
  match Route.ofPath? path with
  | some route =>
    if q.method = route.method then
      let (reply, s) := s.serve q route
      (reply.encoded, s)
    else (.wrongMethod, s)
  | none => (if (Route.ofSlashed? path).isSome then .redirected else .notFound, s)

end MomentInsights.Service.Server
