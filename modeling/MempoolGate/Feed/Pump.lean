import MempoolGate.Error
import MempoolGate.Feed.Event
import MempoolGate.Telemetry

namespace MempoolGate.Feed

/-- The bounds of a session: how many notifications it accepts, how many items it has in its window,
and how many events its channel holds. -/
structure Limits where
  cap : Nat
  concurrency : Nat
  capacity : Nat
deriving DecidableEq, Repr

/-- A channel cannot be made to hold more events than these: three bits of a word are not for counting. -/
def maxCapacity : Nat := (UInt64.size - 1) >>> 3

inductive Item
  | hash (h : TxHash)
  | fault (e : GatewayError)
deriving DecidableEq, Repr

/-- How a look-up ends; a failed one is a miss like any other. -/
inductive Lookup
  | found (tx : PendingTx) (seenAt : Int64)
  | missing
deriving DecidableEq, Repr

inductive Slot
  | looking (ticket : Nat) (hash : TxHash)
  | settled (event : Option Event)
deriving DecidableEq, Repr

/-- The source is pumped until it ends; the last event closes the feed. -/
inductive Stage
  | pumping
  | closing
  | ended
deriving DecidableEq, Repr

structure Pump where
  network : Network
  limits : Limits
  stage : Stage := .pumping
  received : Nat := 0
  dropped : Nat := 0
  /-- The items whose events are still to come, the oldest first. -/
  window : List Slot := []
  /-- The event that waits for room on the channel. -/
  hand : Option Event := none
  sourceOver : Bool := false
  channel : List Event := []
deriving DecidableEq, Repr

inductive Move
  | pull (item : Item)
  | settle (ticket : Nat) (lookup : Lookup)
  | take
  | send
  | endSource
  | close
  | abandon
  | receive
deriving DecidableEq, Repr

namespace Lookup

def event? (net : Network) : Lookup → Option Event
  | found tx seenAt => some (.tx (net.report seenAt tx))
  | missing => none

def tally : Lookup → Tally
  | found tx _ => .emitted (Risk.classify tx).level
  | missing => .missed

end Lookup

def Slot.holds (ticket : Nat) : Slot → Bool
  | looking t _ => t = ticket
  | settled _ => false

namespace Pump

def faultEvent (p : Pump) (e : GatewayError) : Event :=
  .failure p.network.id e.code.name e.message

def sourceEnded : GatewayError :=
  { code := .wsStreamClosed, message := "Upstream subscription ended" }

def greeting (net : Network) (sessionId : Uuid) (endpointIndex : UInt64) : Event :=
  .connected sessionId net.id net.chainId endpointIndex
    ("Connected to " ++ net.name ++ " mempool feed")

def start (net : Network) (limits : Limits) (sessionId : Uuid) (endpointIndex : UInt64) : Pump :=
  { network := net, limits := limits, channel := [greeting net sessionId endpointIndex] }

def isPolling (p : Pump) : Bool :=
  p.stage = .pumping && p.hand.isNone

/-- An item enters the window. The cap is applied here, to notifications only. -/
def pull (p : Pump) : Item → Pump × List Tally
  | .hash h =>
    if p.received < p.limits.cap then
      ({ p with
          received := p.received + 1
          window := p.window ++ [.looking p.received h] }, [])
    else
      ({ p with dropped := p.dropped + 1, window := p.window ++ [.settled none] },
        [.droppedByCap])
  | .fault e => ({ p with window := p.window ++ [.settled (some (p.faultEvent e))] }, [.streamFailed])

/-- The state after a move and what is counted, if the move can be made. -/
def move? (p : Pump) : Move → Option (Pump × List Tally)
  | .pull item =>
    if p.isPolling ∧ !p.sourceOver ∧ p.window.length < p.limits.concurrency then
      some (p.pull item)
    else none
  | .settle ticket lookup =>
    if p.isPolling ∧ p.window.any (·.holds ticket) then
      let settle (slot : Slot) : Slot :=
        if slot.holds ticket then .settled (lookup.event? p.network) else slot
      some ({ p with window := p.window.map settle }, [lookup.tally])
    else none
  | .take =>
    match p.window with
    | .settled event :: rest =>
      if p.isPolling then some ({ p with window := rest, hand := event }, []) else none
    | _ => none
  | .send =>
    match p.hand with
    | some event =>
      if p.stage ≠ .ended ∧ p.channel.length < p.limits.capacity then
        let stage := if p.stage = .closing then .ended else p.stage
        some ({ p with stage := stage, hand := none, channel := p.channel ++ [event] }, [])
      else none
    | none => none
  | .endSource =>
    -- the end comes out of the source like an item, so that it takes room in the window as well
    if p.isPolling ∧ p.window.length < p.limits.concurrency then
      some ({ p with sourceOver := true }, [])
    else none
  | .close =>
    if p.isPolling ∧ p.sourceOver ∧ p.window = [] then
      some ({ p with stage := .closing, hand := some (p.faultEvent sourceEnded) },
        [.streamFailed])
    else none
  | .abandon =>
    -- what is on the channel is left to the client
    if p.stage ≠ .ended then some ({ p with stage := .ended, hand := none }, []) else none
  | .receive =>
    match p.channel with
    | _ :: rest => some ({ p with channel := rest }, [])
    | [] => none

/-- Nothing more will come: the channel is drained and no one puts events on it. -/
def isDrained (p : Pump) : Bool :=
  p.stage = .ended && p.channel.isEmpty

end Pump

end MempoolGate.Feed
