import MempoolGate.Chain.Bytes
import MempoolGate.Chain.Wei

namespace MempoolGate

/-- A pending transaction with all its fields; no recipient means that it creates a contract. -/
structure PendingTx where
  hash : TxHash
  sender : Address
  recipient : Option Address
  value : Wei
  input : List UInt8
  gasLimit : UInt64
deriving DecidableEq, Repr

def selectorText (input : List UInt8) : String :=
  Text.hexText (input.take 4)

end MempoolGate
