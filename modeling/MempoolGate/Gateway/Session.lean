import MempoolGate.Gateway.State
import MempoolGate.Rpc.Endpoint

namespace MempoolGate

/-- What opening a socket and subscribing on it come to, by address, and the seconds that the clock reads
when the heartbeat of the socket starts. -/
structure Connector where
  connect : String → Except GatewayError Unit
  subscribe : String → Except GatewayError Unit
  clock : Nat

namespace Connector

def unreached (url : String) : GatewayError :=
  { code := .wsConnectFailed, message := "Failed to connect to " ++ maskUrl url, hasCause := true }

def unreachable : Connector :=
  ⟨fun url => .error (unreached url), fun url => .error (unreached url), 0⟩

end Connector

structure Opened where
  network : Network
  endpointIndex : UInt64
  connection : Nat
deriving DecidableEq, Repr

structure SessionHandle extends Opened where
  id : Uuid
  closed : Bool := false
deriving DecidableEq, Repr

namespace SessionHandle

def describe (h : SessionHandle) : String :=
  "SessionHandle \x7b id: ID, endpoint_index: " ++ Text.decimal h.endpointIndex.toNat ++
    ", closed: " ++ (if h.closed then "true" else "false") ++ ", .. \x7d"

end SessionHandle

namespace Gateway

def limits (g : Gateway) : Feed.Limits :=
  ⟨g.settings.sessionCap, max 1 g.settings.resolveConcurrency, max 1 g.settings.channelCapacity⟩

def selectEndpoint (g : Gateway) (name : String) :
    Except GatewayError (Network × UInt64) × Gateway :=
  let network := g.registry.resolve name
  if network.wsUrls = [] then
    (.error
      { code := .configInvalidValue
        message := "No WebSocket endpoints configured for " ++ network.id }, g)
  else
    let (index, rotation) := g.rotation.next network.id network.wsUrls.length
    (.ok (network, index), { g with rotation := rotation })

/-- A socket on the endpoint whose turn it is. -/
def openSocket (g : Gateway) (connector : Connector) (name : String) :
    Except GatewayError Opened × Gateway :=
  match g.selectEndpoint name with
  | (.error e, g) => (.error e, g)
  | (.ok (network, index), g) =>
    let url := network.wsUrls.getD index.toNat ""
    -- an address at which nobody answers was dialled all the same, and its turn is over
    let g := { g with dialled := g.dialled ++ [url] }
    match connector.connect url with
    | .error e => (.error e, g)
    | .ok () =>
      (.ok ⟨network, index, g.connections.length⟩,
        { g with
          connections := g.connections ++ [
            { url := url
              openedAt := connector.clock
              beating := g.settings.heartbeatBeats connector.clock }] })

def stopHeartbeat (g : Gateway) (connection : Nat) : Gateway :=
  let still (c : Connection) : Connection := { c with beating := false }
  { g with connections := g.connections.modify connection still }

def closeSocket (g : Gateway) (connection : Nat) : Gateway :=
  let shut (c : Connection) : Connection := { c with closes := c.closes + 1, beating := false }
  { g with connections := g.connections.modify connection shut }

/-- A refused subscription is reported as such, whatever its own code. -/
def subscriptionError (e : GatewayError) : GatewayError :=
  if e.code = .wsSubscribeFailed then e else { code := .wsSubscribeFailed, message := e.message }

/-- Why no feed is opened: the caller is told so, or the call breaks off in a panic. -/
inductive Halt
  | failed (e : GatewayError)
  | panicked
deriving DecidableEq, Repr

/-- A live feed of a network under a fresh id, with the pump that will fill its channel. A panic over the
channel comes when the socket is already there: its heartbeat stops, but nobody closes it. -/
def subscribe (g : Gateway) (connector : Connector) (id : Uuid) (name : String) :
    Except Halt (SessionHandle × Feed.Pump) × Gateway :=
  if g.stopping then
    (.error (.failed { code := .apiUnavailable, message := "Gateway is shutting down" }), g)
  else
    match g.openSocket connector name with
    | (.error e, g) => (.error (.failed e), g.count .sessionOpenFailed)
    | (.ok socket, g) =>
      match connector.subscribe (socket.network.wsUrls.getD socket.endpointIndex.toNat "") with
      | .error e =>
        (.error (.failed (subscriptionError e)),
          (g.count .sessionOpenFailed).closeSocket socket.connection)
      | .ok () =>
        if g.limits.capacity ≤ Feed.maxCapacity then
          let info : SessionInfo := ⟨socket.network.id, socket.endpointIndex⟩
          let g := { g with sessions := g.sessions.put id info }.count .sessionOpened
          (.ok (⟨socket, id, false⟩, .start socket.network g.limits id socket.endpointIndex), g)
        else (.error .panicked, g.stopHeartbeat socket.connection)

/-- The session ends: its socket is closed, and it is listed no more. A session that has ended is left
alone. -/
def release (g : Gateway) (h : SessionHandle) : SessionHandle × Gateway :=
  if h.closed then (h, g)
  else
    let g := g.closeSocket h.connection
    let g := { g with sessions := g.sessions.erase h.id }
    ({ h with closed := true }, g.count .sessionClosed)

def shutdown (g : Gateway) : Gateway :=
  { g with stopping := true }

end Gateway

end MempoolGate
