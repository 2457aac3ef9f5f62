import MempoolGate.Gateway.Session
import MempoolGate.Http.Encoding
import MempoolGate.Http.Payload

namespace MempoolGate.Http

/-- The body of an answer. A live feed goes on for as long as its session. -/
inductive Content
  | nothing
  | plain
  | json (envelope : Json.Value)
  | feed (handle : SessionHandle) (pump : Feed.Pump)

structure Response where
  status : Nat
  headers : List (String × String) := []
  content : Content := .nothing
  pauses : Nat := 0

namespace Response

def data (payload : Payload) : Response :=
  { status := 200
    headers := [("content-type", "application/json")]
    content := .json (envelope (.ok payload)) }

def complaint (c : Complaint) : Response :=
  { status := c.code.httpStatus
    headers := [("content-type", "application/json")]
    content := .json (envelope (.error c)) }

def failure (e : GatewayError) : Response :=
  complaint (.ofError e)

def ofResult : Except GatewayError Payload → Response
  | .ok payload => data payload
  | .error e => failure e

def unreadable (status : Nat) : Response :=
  { status := status, headers := [("content-type", "text/plain; charset=utf-8")], content := .plain }

def wrongMethod : Response :=
  { status := 405 }

def feed (handle : SessionHandle) (pump : Feed.Pump) : Response :=
  { status := 200
    headers := [("content-type", "application/x-ndjson"), ("cache-control", "no-cache")]
    content := .feed handle pump }

/-- No answer at all: a handler panics, and the connection breaks off. -/
def cut : Response :=
  { status := 0 }

def notFound : Response :=
  failure { code := .apiNotFound, message := "No such route" }

def adding (r : Response) (headers : List (String × String)) : Response :=
  { r with headers := r.headers ++ headers }

def bare (r : Response) : Response :=
  { r with content := .nothing }

/-- Envelopes and plain texts may be encoded. A feed may not: its lines would be held back. -/
def isCompressible (r : Response) : Bool :=
  match r.content with
  | .plain | .json _ => true
  | .nothing | .feed .. => false

def variesOn : String :=
  "origin, access-control-request-method, access-control-request-headers"

def exposed : String :=
  "x-ratelimit-limit,x-ratelimit-remaining,x-ratelimit-plan"

def shared (r : Response) : Response :=
  let vary := if r.isCompressible then "accept-encoding, " ++ variesOn else variesOn
  r.adding [("vary", vary), ("access-control-allow-origin", "*"),
    ("access-control-expose-headers", exposed)]

def encoded (r : Response) : Encoding → Response
  | .gzip => if r.isCompressible then r.adding [("content-encoding", "gzip")] else r
  | .identity => r

def preflight : Response :=
  { status := 200
    headers := [("vary", variesOn), ("access-control-allow-origin", "*"),
      ("access-control-allow-methods", "*"), ("access-control-allow-headers", "*")] }

def header? (r : Response) (name : String) : Option String :=
  match (r.headers.filter (·.1 = name)).map (·.2) with
  | [] => none
  | values => some (", ".intercalate values)

end Response

end MempoolGate.Http
