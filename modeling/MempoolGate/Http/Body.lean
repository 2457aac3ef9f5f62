import MempoolGate.Chain.Transaction
import MempoolGate.Error
import MempoolGate.Json.Decode
import MempoolGate.Registry
import MempoolGate.Simulation.Request

namespace MempoolGate.Http

open Json

structure ClassifyBody where
  sender : String
  recipient : Option String
  value : Option String
  payload : Option String
  gasLimit : UInt64
  network : Option String
deriving DecidableEq, Repr

structure SimulateBody where
  sender : String
  recipient : String
  value : Option String
  payload : Option String
  gasLimit : UInt64
  network : Option String
deriving DecidableEq, Repr

def ClassifyBody.fields : Fields ClassifyBody :=
  ClassifyBody.mk <$> .required "from" .text <*> .optional "to" .text
    <*> .optional "value" .text <*> .optional "data" .text
    <*> .defaulted "gas_limit" .word 21000 <*> .optional "network" .text

def SimulateBody.fields : Fields SimulateBody :=
  SimulateBody.mk <$> .required "from" .text <*> .required "to" .text
    <*> .optional "value" .text <*> .optional "data" .text
    <*> .defaulted "gas_limit" .word 500000 <*> .optional "network" .text

def readAddress (field raw : String) : Except GatewayError Address :=
  match FixedBytes.parse? 20 (Text.trim raw) with
  | some address => .ok address
  | none => .error (.badRequest ("Invalid " ++ field ++ " address: " ++ raw))

def readWei (raw : Option String) : Except GatewayError Wei :=
  match raw.bind Text.trimmed? with
  | none => .ok .zero
  | some v => match Wei.parse? v with
    | some w => .ok w
    | none => .error (.badRequest ("Invalid value: " ++ v))

def readPayload (raw : Option String) : Except GatewayError (List UInt8) :=
  match raw.bind Text.trimmed? with
  | none => .ok []
  | some v => match Text.hexBytes? v with
    | some bytes => .ok bytes
    | none => .error (.badRequest "Calldata must be hex")

def ClassifyBody.toTx (b : ClassifyBody) : Except GatewayError PendingTx := do
  let sender ← readAddress "from" b.sender
  let recipient ← match b.recipient.bind Text.trimmed? with
    | some raw => (readAddress "to" raw).map some
    | none => .ok none
  let value ← readWei b.value
  let payload ← readPayload b.payload
  return ⟨.filled 32 0, sender, recipient, value, payload, b.gasLimit⟩

/-- The request to the engine, which reads the state of the chain from the network's own node. -/
def SimulateBody.toRequest (b : SimulateBody) (registry : Registry) :
    Except GatewayError Simulation.Request := do
  let sender ← readAddress "from" b.sender
  let recipient ← readAddress "to" b.recipient
  let value ← readWei b.value
  let payload ← readPayload b.payload
  let network := registry.resolve (b.network.getD "")
  return {
    sender := sender.checksummed
    recipient := recipient.checksummed
    valueWei := value.decimal
    payload := Text.hexText payload
    gasLimit := b.gasLimit
    network := network.id
    rpcUrl := some network.httpUrl }

end MempoolGate.Http
