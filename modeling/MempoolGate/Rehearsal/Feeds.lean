import MempoolGate.Rehearsal.World

namespace MempoolGate.Rehearsal.World

def send (w : World) (connection : Nat) (items : List Feed.Item) : Nat × World :=
  match w.sockets[connection]? with
  | none => (0, w)
  | some s =>
    if s.isOpen then
      let s := { s with queue := s.queue ++ items }
      (items.length, { w with sockets := w.sockets.set connection s }.settle)
    else (0, w)

def hangUp (w : World) (connection : Nat) : World :=
  let leave (s : Socket) : Socket := { s with hungUp := true }
  { w with sockets := w.sockets.modify connection leave }.settle

def pings (w : World) : List Nat :=
  w.sockets.map (·.pings (1000 * w.gateway.settings.heartbeatSecs) w.clock)

def selectEndpoint (w : World) (network : String) :
    Except GatewayError (Network × UInt64) × World :=
  let (result, gateway) := w.gateway.selectEndpoint network
  (result, { w with gateway := gateway })

def forsake (w : World) (connection : Nat) : World :=
  let leave (s : Socket) : Socket := { s with forsaken := true }
  let w := w.become (w.gateway.stopHeartbeat connection)
  { w with sockets := w.sockets.modify connection leave }

def openSocket (w : World) (name network : String) : Except GatewayError Opened × World :=
  match w.gateway.openSocket w.connector network with
  | (.error e, g) => (.error e, w.become g)
  | (.ok socket, g) =>
    let w := w.become g
    let w := match w.opened.get? name with
      | some old => w.forsake old.connection
      | none => w
    (.ok socket, { w with opened := w.opened.put name socket })

def closeSocket (w : World) (name : String) : Option World :=
  (w.opened.get? name).map fun socket =>
    { w.become (w.gateway.closeSocket socket.connection) with opened := w.opened.erase name }

def subscribe (w : World) (name network : String) : Except GatewayError SessionHandle × World :=
  let (id, w) := w.takeId
  match w.gateway.subscribe w.connector id network with
  | (.error (.failed e), g) => (.error e, w.become g)
  | (.error .panicked, g) =>
    (.error { code := .unknown, message := "panic" }, { w.become g with panicked := true })
  | (.ok (handle, pump), g) =>
    let (seat, w) := (w.become g).attach handle pump
    let w := match w.sessions.get? name with
      | some old => (w.vacate old).2
      | none => w
    (.ok handle, { w with sessions := w.sessions.put name seat }.settle)

def session? (w : World) (name : String) : Option (SessionHandle × Nat) := do
  let handle ← (← w.sessions.get? name).handle
  let worker ← (← w.sockets[handle.connection]?).worker
  return (handle, worker.pump.received)

def atSeat (w : World) (name : String) (act : World → Seat → Seat × World) : Option World :=
  (w.sessions.get? name).map fun seat =>
    let (seat, w) := act w seat
    { w with sessions := w.sessions.put name seat }.settle

def receiveFrom (w : World) (name : String) (max : Option Nat) :
    Option ((List Event × Bool) × World) := do
  let seat ← w.sessions.get? name
  if seat.reading then some (w.read seat.connection max) else none

def shutdown (w : World) : World :=
  { w with gateway := w.gateway.shutdown }

def dropStream (w : World) (name : String) : World :=
  match w.streams.get? name with
  | some seat =>
    let w := (seat.map fun seat => (w.vacate seat).2).getD w
    { w with streams := w.streams.erase name }.settle
  | none => w

def keepStream (w : World) (name : String) (seat : Option Seat) : World :=
  let w := w.dropStream name
  { w with streams := w.streams.put name seat }.settle

def request (w : World) (stream : Option String) (r : Http.Request) : Http.Response × World :=
  let (response, g) := w.surroundings.respond w.gateway r
  let w := { w with ids := w.ids + 1, panicked := w.panicked || response.status = 0 }.become g
  let w := w.advance response.pauses
  let (seat, w) := match response.content with
    | .feed handle pump => let (seat, w) := w.attach handle pump; (some seat, w)
    | _ => (none, w)
  match stream with
  | some name => (response, if response.status = 200 then w.keepStream name seat else w)
  | none => (response, (seat.map fun seat => (w.vacate seat).2.settle).getD w)

/-- The events on a stream, and whether it is over. Once the gateway shuts down the next look at a
stream is the last one, and shows nothing. -/
def readStream (w : World) (name : String) : Option ((List Event × Bool) × World) := do
  match ← w.streams.get? name with
  | none => some (([], true), w.dropStream name)
  | some seat =>
    if w.gateway.stopping then some (([], true), w.dropStream name)
    else
      let ((events, isOver), w) := w.read seat.connection none
      return ((events, isOver), if isOver then w.dropStream name else w)

end MempoolGate.Rehearsal.World
