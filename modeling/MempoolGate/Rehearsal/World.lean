import MempoolGate.Gateway.Session
import MempoolGate.Http.Router
import MempoolGate.Rehearsal.Socket

namespace MempoolGate.Rehearsal

/-- What a client holds of a session: the handle until it is closed, and the reading end until that
is dropped. -/
structure Seat where
  connection : Nat
  handle : Option SessionHandle
  reading : Bool := true
deriving DecidableEq, Repr

structure World where
  gateway : Gateway
  panicked : Bool := false
  node : Rpc.Node := .unreachable
  engineFault : Option GatewayError := none
  mempool : Mempool := {}
  connectFaults : Table String GatewayError := {}
  subscribeFaults : Table String GatewayError := {}
  clock : Nat := 0
  sockets : List Socket := []
  ids : Nat := 0
  accounts : Table String Uuid := {}
  keys : Table String Uuid := {}
  rawKeys : Table String String := {}
  drawn : List String := []
  opened : Table String Opened := {}
  sessions : Table String Seat := {}
  /-- The bodies of answers that are kept open; one that is no feed has nobody in its seat. -/
  streams : Table String (Option Seat) := {}

def numberedId (n : Nat) : Uuid :=
  let digits := (List.range 8).map fun i => UInt8.ofNat ((n + 1) >>> (8 * (7 - i)))
  ⟨List.replicate 8 1 ++ digits, by simp [digits]⟩

namespace World

def connector (w : World) : Connector where
  connect url := match w.connectFaults.get? url with
    | some e => .error e
    | none => .ok ()
  subscribe url := match w.subscribeFaults.get? url with
    | some e => .error e
    | none => .ok ()
  clock := 86400

def engine (w : World) (request : Simulation.Request) :
    Except GatewayError Simulation.Outcome := do
  let arguments ← request.arguments
  match w.engineFault with
  | some e => throw e
  | none =>
    let asked := Json.Value.obj [("sender", .str request.sender), ("to", .str request.recipient),
      ("value_wei", .str request.valueWei), ("data", .str request.payload),
      ("gas_limit", Http.natValue request.gasLimit.toNat), ("network", .str request.network),
      ("rpc_url", Http.optional .str request.rpcUrl)]
    return ⟨.obj [("request", asked), ("args", Http.texts arguments)], none, 0⟩

def surroundings (w : World) : Http.Surroundings :=
  { node := w.node, engine := w.engine, connector := w.connector, now := w.clock
    freshId := numberedId w.ids }

def takeId (w : World) : Uuid × World :=
  (numberedId w.ids, { w with ids := w.ids + 1 })

def settle (w : World) : World :=
  let settled := w.sockets.map (·.settle w.mempool w.clock)
  { w with
    sockets := settled.map (·.1)
    gateway := w.gateway.countAll (settled.flatMap (·.2)) }

def become (w : World) (g : Gateway) : World :=
  let fresh := (g.connections.drop w.sockets.length).map fun _ => ({ openedAt := w.clock } : Socket)
  let sockets := (w.sockets ++ fresh).zipWith (·.follow w.clock ·) g.connections
  { w with gateway := g, sockets := sockets }

def attach (w : World) (handle : SessionHandle) (pump : Feed.Pump) : Seat × World :=
  let equip (s : Socket) : Socket := { s with worker := some { pump := pump } }
  (⟨handle.connection, some handle, true⟩,
    { w with sockets := w.sockets.modify handle.connection equip })

def release (w : World) (seat : Seat) : Seat × World :=
  match seat.handle with
  | some handle => ({ seat with handle := none }, w.become (w.gateway.release handle).2)
  | none => (seat, w)

def ignore (w : World) (seat : Seat) : Seat × World :=
  let leave (s : Socket) : Socket :=
    { s with worker := s.worker.map fun k => { k with attended := false } }
  ({ seat with reading := false }, { w with sockets := w.sockets.modify seat.connection leave })

def vacate (w : World) (seat : Seat) : Seat × World :=
  let (seat, w) := w.release seat
  w.ignore seat

def deadline? (w : World) : Option Nat :=
  (w.sockets.filterMap Socket.deadline?).min?

def elapse (goal : Nat) : Nat → World → World
  | 0, w => { w with clock := goal }
  | budget + 1, w =>
    match w.deadline? with
    | none => { w with clock := goal }
    | some time =>
      if goal < time then { w with clock := goal }
      else
        let w := { w with clock := max time w.clock }
        let w := { w with sockets := w.sockets.map (Socket.wake w.clock) }
        elapse goal budget w.settle

def rests (w : World) : Nat :=
  w.sockets.foldl (fun total s => total + s.rests) 0

def advance (w : World) (ms : Nat) : World :=
  let w := w.settle
  (w.elapse (w.clock + ms) w.rests).settle

def receive (connection : Nat) : Nat → World → List Event × World
  | 0, w => ([], w)
  | count + 1, w =>
    let w := w.settle
    match (w.sockets[connection]?).bind Socket.receive? with
    | none => ([], w)
    | some (event, socket) =>
      let (events, w) := receive connection count { w with sockets := w.sockets.set connection socket }
      (event :: events, w)

def read (w : World) (connection : Nat) (max : Option Nat) : (List Event × Bool) × World :=
  let backlog := ((w.sockets[connection]?).map Socket.backlog).getD 0
  let count := (max.map fun n => min n backlog).getD backlog
  let (events, w) := w.receive connection count
  let w := w.settle
  let isOver := ((w.sockets[connection]?).map Socket.isDrained).getD true
  ((events, isOver && max.all (events.length < ·)), w)

end World

end MempoolGate.Rehearsal
