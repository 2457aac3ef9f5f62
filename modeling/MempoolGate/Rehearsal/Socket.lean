import MempoolGate.Gateway.State
import MempoolGate.Rehearsal.Mempool

namespace MempoolGate.Rehearsal

structure Errand where
  ticket : Nat
  hash : TxHash
  rested : Bool := false
deriving DecidableEq, Repr

structure Worker where
  pump : Feed.Pump
  ready : List Errand := []
  resting : List (Nat × Errand) := []
  attended : Bool := true
deriving DecidableEq, Repr

namespace Worker

def make (k : Worker) (move : Feed.Move) : Option (Worker × List Tally) :=
  (k.pump.move? move).map fun (pump, tallies) => ({ k with pump := pump }, tallies)

def pull? (k : Worker) (item : Feed.Item) : Option (Worker × List Tally) := do
  let (pump, tallies) ← k.pump.move? (.pull item)
  let errands : List Errand := match pump.window.getLast? with
    | some (.looking ticket hash) => [{ ticket := ticket, hash := hash }]
    | _ => []
  return ({ k with pump := pump, ready := k.ready ++ errands }, tallies)

/-- The first errand goes on: it waits if it has to, or it ends. The event that the client is to see
next is taken at once. -/
def attend? (m : Mempool) (now : Nat) (k : Worker) : Option (Worker × List Tally) :=
  match k.ready with
  | [] => none
  | errand :: rest =>
    let delay := m.delay errand.hash
    if !errand.rested ∧ delay ≠ 0 then
      let resting := k.resting ++ [(now + delay, { errand with rested := true })]
      some ({ k with ready := rest, resting := resting }, [])
    else do
      let (settled, tallies) ←
        k.pump.move? (.settle errand.ticket (m.lookup errand.hash now))
      let (pump, _) := (settled.move? .take).getD (settled, [])
      return ({ k with pump := pump, ready := rest }, tallies)

def wake (now : Nat) (k : Worker) : Worker :=
  let (due, later) := k.resting.partition (·.1 ≤ now)
  { k with ready := k.ready ++ due.map (·.2), resting := later }

def stop (k : Worker) : Worker :=
  let pump := match k.pump.move? .abandon with
    | some (pump, _) => pump
    | none => k.pump
  { k with pump := pump, ready := [], resting := [] }

end Worker

structure Socket where
  openedAt : Nat
  stilledAt : Option Nat := none
  closed : Bool := false
  queue : List Feed.Item := []
  hungUp : Bool := false
  forsaken : Bool := false
  worker : Option Worker := none
deriving DecidableEq, Repr

namespace Socket

def isOpen (s : Socket) : Bool :=
  !s.closed && !s.hungUp && !s.forsaken && s.worker.all fun k => k.pump.stage ≠ .ended

def pings (period now : Nat) (s : Socket) : Nat :=
  ((s.stilledAt.getD now) - s.openedAt) / period

def keep (s : Socket) (change : Option (Worker × List Tally)) : Option (Socket × List Tally) :=
  change.map fun (k, tallies) => ({ s with worker := some k }, tallies)

def draw? (s : Socket) (k : Worker) : Option (Socket × List Tally) :=
  match s.queue with
  | item :: queue => { s with queue := queue }.keep (k.pull? item)
  | [] => if s.hungUp ∧ !k.pump.sourceOver then s.keep (k.make .endSource) else none

def next? (m : Mempool) (now : Nat) (s : Socket) : Option (Socket × List Tally) := do
  let k ← s.worker
  if k.pump.hand.isSome then s.keep (k.make (if k.attended then .send else .abandon))
  else
    s.draw? k <|> s.keep (k.make .take) <|> s.keep (k.attend? m now) <|> s.keep (k.make .close)

def run (m : Mempool) (now : Nat) : Nat → Socket → Socket × List Tally
  | 0, s => (s, [])
  | budget + 1, s =>
    match s.next? m now with
    | none => (s, [])
    | some (s, tallies) =>
      let (s, more) := s.run m now budget
      (s, tallies ++ more)

/-- Enough for everything that can happen: an item is pulled, looked up in two steps, taken and sent,
and a feed is closed once. -/
def budget (s : Socket) : Nat :=
  let waiting := (s.worker.map fun k => k.pump.window.length + k.ready.length).getD 0
  5 * (s.queue.length + waiting) + 8

def rests (s : Socket) : Nat :=
  s.budget + (s.worker.map fun k => k.resting.length).getD 0

def settle (m : Mempool) (now : Nat) (s : Socket) : Socket × List Tally :=
  s.run m now s.budget

def deadline? (s : Socket) : Option Nat :=
  (s.worker.map fun k => k.resting.map (·.1)).bind List.min?

def wake (now : Nat) (s : Socket) : Socket :=
  { s with worker := s.worker.map (·.wake now) }

def follow (now : Nat) (s : Socket) (c : Connection) : Socket :=
  let s := if c.beating || s.stilledAt.isSome then s else { s with stilledAt := some now }
  if c.closes = 0 ∨ s.closed then s
  else { s with closed := true, worker := s.worker.map Worker.stop }

def receive? (s : Socket) : Option (Event × Socket) := do
  let k ← s.worker
  let event ← k.pump.channel.head?
  let (s, _) ← s.keep (k.make .receive)
  return (event, s)

def isDrained (s : Socket) : Bool :=
  s.worker.all (·.pump.isDrained)

def backlog (s : Socket) : Nat :=
  (s.worker.map fun k => k.pump.channel.length + k.pump.window.length).getD 0 +
    s.queue.length + 2

end Socket

end MempoolGate.Rehearsal
