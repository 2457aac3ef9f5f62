import MempoolGate.Chain.Transaction
import MempoolGate.Risk.Level
import MempoolGate.Risk.Selector

namespace MempoolGate.Risk

def maxScore : Nat := 100

structure Hit where
  points : Nat
  reason : Option String
deriving DecidableEq, Repr

/-- Amounts are compared exactly, strictly above a number of whole native units. -/
def valueRule (value : Wei) : Option Hit :=
  if nativeUnits 100 < value.toNat then some ⟨40, some "High value transfer"⟩
  else if nativeUnits 10 < value.toNat then some ⟨20, some "Large value"⟩
  else if nativeUnits 1 < value.toNat then some ⟨10, none⟩
  else none

def callRule (input : List UInt8) : Option Hit :=
  (riskyCall? input).map fun name => ⟨25, some ("Risky function call: " ++ name)⟩

def payloadRule (input : List UInt8) : Option Hit :=
  if 1000 < input.length then some ⟨10, some "Large calldata payload"⟩ else none

def gasRule (gasLimit : UInt64) : Option Hit :=
  if 500000 < gasLimit.toNat then some ⟨15, some "High gas limit"⟩
  else if 200000 < gasLimit.toNat then some ⟨5, none⟩
  else none

def creationRule (recipient : Option Address) : Option Hit :=
  if recipient.isNone then some ⟨30, some "Contract creation"⟩ else none

def hits (tx : PendingTx) : List Hit :=
  [valueRule tx.value, callRule tx.input, payloadRule tx.input, gasRule tx.gasLimit,
    creationRule tx.recipient].filterMap id

structure Classification where
  score : Nat
  reasons : List String
  level : RiskLevel
deriving DecidableEq, Repr

def classify (tx : PendingTx) : Classification :=
  let found := hits tx
  let score := min (found.foldl (fun total hit => total + hit.points) 0) maxScore
  ⟨score, found.filterMap (·.reason), .ofScore score⟩

end MempoolGate.Risk
