import MempoolGate.Feed.Pump
import MempoolGate.Quota.Gate
import MempoolGate.Rpc.Clients
import MempoolGate.Session.Rotation

namespace MempoolGate

/-- A socket to a node, from its opening on: what the clock read then, how often it was closed, and
whether its heartbeat is still beating. -/
structure Connection where
  url : String
  openedAt : Nat
  closes : Nat := 0
  beating : Bool := true
deriving DecidableEq, Repr

structure SessionInfo where
  network : String
  endpointIndex : UInt64
deriving DecidableEq, Repr

structure Gateway where
  settings : Settings
  registry : Registry
  store : KeyStore := {}
  /-- The error of every look-up while the store is out of reach. -/
  outage : Option GatewayError := none
  telemetry : Telemetry := {}
  rotation : Rotation := {}
  dialled : List String := []
  connections : List Connection := []
  sessions : Table Uuid SessionInfo := {}
  stopping : Bool := false
  clients : Rpc.Clients := {}

namespace Gateway

def start (settings : Settings) (registry : Registry) : Gateway :=
  { settings := settings, registry := registry }

def count (g : Gateway) (tally : Tally) : Gateway :=
  { g with telemetry := g.telemetry.record tally }

def countAll (g : Gateway) (tallies : List Tally) : Gateway :=
  { g with telemetry := g.telemetry.recordAll tallies }

def openConnections (g : Gateway) : Nat :=
  (g.connections.filter (·.closes = 0)).length

def liveHeartbeats (g : Gateway) : Nat :=
  (g.connections.filter (·.beating)).length

def SessionInfo.le (a b : SessionInfo) : Bool :=
  a.network < b.network || (a.network = b.network && a.endpointIndex.toNat ≤ b.endpointIndex.toNat)

def listSessions (g : Gateway) : List SessionInfo :=
  g.sessions.values.mergeSort SessionInfo.le

def lookup (g : Gateway) : KeyLookup := fun hash =>
  match g.outage with
  | some e => .error e
  | none => .ok (g.store.findActive? hash)

def validate (g : Gateway) (now : Nat) (raw : Option String) :
    Except GatewayError Verdict × Gateway :=
  match g.store.validateWith g.lookup now raw with
  | .error e => (.error e, g)
  | .ok (verdict, store) => (.ok verdict, { g with store := store }.count verdict.tally)

end Gateway

end MempoolGate
