import MempoolGate.Feed.Pump
import MempoolGate.Table

namespace MempoolGate.Rehearsal

structure Mempool where
  txs : Table TxHash PendingTx := {}
  delays : Table TxHash Nat := {}
  faults : Table TxHash GatewayError := {}

namespace Mempool

def delay (m : Mempool) (hash : TxHash) : Nat :=
  (m.delays.get? hash).getD 0

def lookup (m : Mempool) (hash : TxHash) (now : Nat) : Feed.Lookup :=
  if m.faults.contains hash then .missing
  else match m.txs.get? hash with
    | some tx => .found tx (Int64.ofNat now)
    | none => .missing

end Mempool

end MempoolGate.Rehearsal
