import MempoolGate.Http.Body
import MempoolGate.Http.MediaType
import MempoolGate.Http.Response
import MempoolGate.Http.Route
import MempoolGate.Rpc.Joint

namespace MempoolGate.Http

open Json

/-- What a call meets outside the gateway: the nodes, the simulation engine, the sockets it may open,
the time in milliseconds since 1970, and an id that was never used. -/
structure Surroundings where
  node : Rpc.Node
  engine : Simulation.Request → Except GatewayError Simulation.Outcome
  connector : Connector
  now : Nat
  freshId : Uuid

def maxBodyBytes : Nat := 2 <<< 20

/-- A body in JSON, or the status of the answer to one that is none, is too long or does not fit. Only the
first value of the body counts. -/
def Request.json {α : Type} (r : Request) (fields : Fields α) : Except Nat α :=
  -- the type goes first: a long body of another type is refused for its type
  if ((r.text? "content-type").map MediaType.isJson).getD false then
    if r.body.utf8ByteSize ≤ maxBodyBytes then
      match fields.read (Doc.first r.body) with
      | .ok a => .ok a
      | .error .malformed => .error 400
      | .error .unfit => .error 422
    else .error 413
  else .error 415

def classify (registry : Registry) (body : ClassifyBody) : Except GatewayError Payload := do
  let tx ← body.toTx
  let network := registry.resolve (body.network.getD "")
  return .classified
    { network := network.id
      verdict := Risk.classify tx
      knownContract := tx.recipient.bind (contractLabel? network.chainId)
      selector := selectorText tx.input }

def simulate (s : Surroundings) (registry : Registry) (body : SimulateBody) :
    Except GatewayError Payload := do
  let request ← body.toRequest registry
  return .simulated (← s.engine request)

namespace Surroundings

variable (s : Surroundings) (g : Gateway)

def account (name rawAddress : String) : Response × Gateway :=
  match readAddress "account" rawAddress with
  | .error e => (.failure e, g)
  | .ok address =>
    let (client, clients) := g.clients.get g.registry name
    let network := client.network
    -- the three are asked at the same time; their numbers are drawn in this order
    let (balance, client) := client.ask s.node (.balance address)
    let (nonce, client) := client.ask s.node (.nonce address)
    let (code, client) := client.ask s.node (.code address)
    let joint := balance.alone.both (nonce.alone.both code.alone)
    let result := joint.outcome.map fun (balance, nonce, code) =>
      Payload.account ⟨network, address, balance, nonce, code⟩
    ({ Response.ofResult result with pauses := joint.pauses },
      { g with clients := clients.keep client })

def gas (name : String) : Response × Gateway :=
  let (client, clients) := g.clients.get g.registry name
  let network := client.network
  let (chainId, client) := client.ask s.node .chainId
  let (gasPrice, client) := client.ask s.node .gasPrice
  let (baseFee, client) := client.ask s.node .baseFee
  let joint := chainId.alone.both (gasPrice.alone.both baseFee.alone)
  let result := joint.outcome.map fun (chainId, gasPrice, number, fee) =>
    Payload.gas ⟨network, chainId, number, gasPrice, fee⟩
  ({ Response.ofResult result with pauses := joint.pauses },
    { g with clients := clients.keep client })

def transaction (name rawHash : String) : Response × Gateway :=
  match (FixedBytes.parse? 32 (Text.trim rawHash) : Option TxHash) with
  | none => (.failure (.badRequest ("Invalid transaction hash: " ++ rawHash)), g)
  | some hash =>
    let (client, clients) := g.clients.get g.registry name
    let network := client.network
    let (call, client) := client.ask s.node (.transaction hash)
    let result := call.outcome.bind fun
      | some tx => .ok (.transaction (network.report (Int64.ofNat s.now) tx))
      | none =>
        .error { code := .apiNotFound, message := "Transaction " ++ hash.hex ++ " not found" }
    ({ Response.ofResult result with pauses := call.alone.pauses },
      { g with clients := clients.keep client })

def stream (name : String) : Response × Gateway :=
  match g.subscribe s.connector s.freshId name with
  | (.ok (handle, pump), g) => (.feed handle pump, g)
  | (.error (.failed e), g) => (.failure e, g)
  | (.error .panicked, g) => (.cut, g)

def stats : Payload :=
  .stats g.telemetry g.liveHeartbeats g.clients.size g.listSessions

/-- The answer to a call of a route that has the method of the request. Parts of the path are read
only now. -/
def handle (r : Request) : Route → Response × Gateway
  | .health => (.data (.health g.sessions.size), g)
  | .networks => (.data (.networks g.registry.defaultNetwork.id g.registry.list), g)
  | .stats => (.data (stats g), g)
  | .stream network => match Text.percentDecode? network with
    | some name => s.stream g name
    | none => (.unreadable 400, g)
  | .classify => match r.json ClassifyBody.fields with
    | .ok body => (.ofResult (classify g.registry body), g)
    | .error status => (.unreadable status, g)
  | .simulate => match r.json SimulateBody.fields with
    | .ok body => (.ofResult (simulate s g.registry body), g)
    | .error status => (.unreadable status, g)
  | .account network address => match Text.percentDecode? network, Text.percentDecode? address with
    | some name, some raw => s.account g name raw
    | _, _ => (.unreadable 400, g)
  | .gas network => match Text.percentDecode? network with
    | some name => s.gas g name
    | none => (.unreadable 400, g)
  | .transaction network hash => match Text.percentDecode? network, Text.percentDecode? hash with
    | some name, some raw => s.transaction g name raw
    | _, _ => (.unreadable 400, g)

end Surroundings

end MempoolGate.Http
