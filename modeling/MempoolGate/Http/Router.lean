import MempoolGate.Http.Handlers

namespace MempoolGate.Http.Surroundings

variable (s : Surroundings) (g : Gateway)

def serve (r : Request) (route : Route) : Response × Gateway :=
  if r.method ∈ route.methods then s.handle g r route else (.wrongMethod, g)

def serveCharged (r : Request) (route : Route) : Response × Gateway :=
  match g.validate s.now r.presentedKey with
  | (.error e, g) => (.failure e, g)
  | (.ok (.rejected reason), g) => (.complaint (.ofRejection reason), g)
  | (.ok (.valid call), g) =>
    let (response, g) := s.serve g r route
    (response.adding call.headers, g)

/-- The answer of a route, charged or not. A method that the route does not have is told those that it
has. -/
def dispatch (r : Request) (route : Route) : Response × Gateway :=
  let (response, g) := if route.isCharged then s.serveCharged g r route else s.serve g r route
  if r.method ∈ route.methods then (response, g)
  else (response.adding [("allow", route.allow)], g)

/-- An answer without its body; a feed that no one will read ends at once. -/
def withoutBody (response : Response) : Response × Gateway :=
  match response.content with
  | .feed handle _ => (response.bare, (g.release handle).2)
  | _ => (response.bare, g)

def respond (r : Request) : Response × Gateway :=
  match Route.ofPath? r.path with
  | none =>
    if r.method = "OPTIONS" then (.preflight, g)
    else (Response.notFound.shared.encoded r.encoding, g)
  | some route =>
    -- whoever asks whether he may call is told so before the gate
    if r.method = "OPTIONS" then (Response.preflight.adding [("allow", route.allow)], g)
    else
      let (response, g) := s.dispatch g r route
      let response := response.shared.encoded r.encoding
      if r.method = "HEAD" ∧ r.method ∈ route.methods then withoutBody g response
      else (response, g)

end MempoolGate.Http.Surroundings
