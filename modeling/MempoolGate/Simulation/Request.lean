import MempoolGate.Json.Decode
import MempoolGate.Error

namespace MempoolGate.Simulation

open Json

structure Request where
  sender : String
  recipient : String
  valueWei : String
  payload : String
  gasLimit : UInt64
  network : String
  rpcUrl : Option String
deriving DecidableEq, Repr

namespace Request

def fields : Fields Request :=
  Request.mk <$> .required "sender" .text <*> .required "to" .text
    <*> .required "value_wei" .text <*> .required "data" .text <*> .required "gas_limit" .word
    <*> .required "network" .text <*> .optional "rpc_url" .text

def parse (s : String) : Except Fault Request :=
  fields.read (Doc.only s)

def arguments (r : Request) : Except GatewayError (List String) :=
  match Wei.parse? r.valueWei with
  | none => .error (.badRequest ("Invalid value: " ++ r.valueWei))
  | some wei =>
    let source := match r.rpcUrl with
      | some url => ["--rpc", url]
      | none => []
    .ok (["--json"] ++ source ++
      ["simulate", "--from", r.sender, "--to", r.recipient, "--value", wei.native,
       "--data", r.payload, "--gas", Text.decimal r.gasLimit.toNat])

end Request

structure Outcome where
  record : Value
  seconds : Option Binary64
  steps : Nat
deriving Repr

end MempoolGate.Simulation
