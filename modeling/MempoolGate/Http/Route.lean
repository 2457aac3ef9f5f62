namespace MempoolGate.Http

/-- A route with the parts of the path that vary, still with their escapes. -/
inductive Route
  | health
  | networks
  | stats
  | stream (network : String)
  | simulate
  | classify
  | account (network address : String)
  | gas (network : String)
  | transaction (network hash : String)
deriving DecidableEq, Repr

namespace Route

def ofSegments? : List String → Option Route
  | ["", "health"] => some health
  | ["", "v1", "health"] => some health
  | ["", "v1", "networks"] => some networks
  | ["", "v1", "stats"] => some stats
  | ["", "v1", "stream", network] => if network = "" then none else some (stream network)
  | ["", "v1", "simulate"] => some simulate
  | ["", "v1", "classify"] => some classify
  | ["", "v1", "networks", network, "gas"] => if network = "" then none else some (gas network)
  | ["", "v1", "networks", network, "address", address] =>
    if network = "" ∨ address = "" then none else some (account network address)
  | ["", "v1", "networks", network, "tx", hash] =>
    if network = "" ∨ hash = "" then none else some (transaction network hash)
  | _ => none

def ofPath? (path : String) : Option Route :=
  ofSegments? ((path.toList.splitOn '/').map String.ofList)

def isCharged : Route → Bool
  | simulate | classify | account .. | gas _ | transaction .. => true
  | health | networks | stats | stream _ => false

def methods : Route → List String
  | simulate | classify => ["POST"]
  | _ => ["GET", "HEAD"]

def allow (r : Route) : String :=
  ",".intercalate r.methods

end Route

end MempoolGate.Http
