import MempoolGate.Chain.Contract
import MempoolGate.Risk.Classifier
import MempoolGate.Uuid

namespace MempoolGate

structure TxReport where
  hash : String
  sender : String
  recipient : Option String
  value : String
  valueNative : String
  selector : String
  payloadLength : UInt64
  gasLimit : UInt64
  riskScore : UInt8
  riskLevel : RiskLevel
  riskReasons : List String
  network : String
  knownContract : Option String
  /-- Milliseconds since 1970. -/
  timestamp : Int64
deriving DecidableEq, Repr

def TxReport.ofTx (tx : PendingTx) (verdict : Risk.Classification) (network : String)
    (label : Option String) (timestamp : Int64) : TxReport :=
  { hash := tx.hash.hex
    sender := tx.sender.checksummed
    recipient := tx.recipient.map (·.checksummed)
    value := tx.value.decimal
    valueNative := tx.value.native
    selector := selectorText tx.input
    payloadLength := UInt64.ofNat tx.input.length
    gasLimit := tx.gasLimit
    riskScore := UInt8.ofNat verdict.score
    riskLevel := verdict.level
    riskReasons := verdict.reasons
    network := network
    knownContract := label
    timestamp := timestamp }

def Network.report (net : Network) (timestamp : Int64) (tx : PendingTx) : TxReport :=
  .ofTx tx (Risk.classify tx) net.id (tx.recipient.bind (contractLabel? net.chainId)) timestamp

inductive Event
  | connected (sessionId : Uuid) (network : String) (chainId endpointIndex : UInt64)
      (message : String)
  | tx (report : TxReport)
  | failure (network code message : String)
deriving DecidableEq, Repr

def Event.kind : Event → String
  | .connected .. => "connected"
  | .tx _ => "tx"
  | .failure .. => "error"

end MempoolGate
