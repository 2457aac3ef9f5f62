import MempoolGate.Chain.Transaction
import MempoolGate.Json.Decode
import MempoolGate.Rpc.Quantity
import MempoolGate.Text.Find

namespace MempoolGate.Rpc

open Json

structure NodeError where
  code : Int64
  message : String
deriving DecidableEq, Repr

namespace NodeError

def fields : Fields NodeError :=
  NodeError.mk <$> .required "code" .signed <*> .required "message" .text

def parse (s : String) : Except Fault NodeError :=
  fields.read (Doc.only s)

/-- Nodes say that a caller is too fast by a code of its own or in words. -/
def isRateLimit (e : NodeError) : Bool :=
  e.code.toInt = -32005 || Text.contains (Text.lowercase e.message) "rate limit"

def toError (e : NodeError) : GatewayError :=
  if e.isRateLimit then .rateLimited
  else
    { code := .rpcError
      message := "RPC error: " ++ e.message ++ " (code: " ++ Text.integer e.code.toInt ++ ")" }

end NodeError

/-- A reply: a result that may be missing or null, and an error that may be so too. -/
structure Envelope (α : Type) where
  result : Option α
  error : Option NodeError

def Envelope.fields {α : Type} (r : Reader α) : Fields (Envelope α) :=
  Envelope.mk <$> .nullable "result" r <*> .nullable "error" NodeError.fields.read

/-- The result in the text of a reply; `absent` is the result when the reply has none. -/
def decodeReply {α : Type} (r : Reader α) (absent : Option α) (body : String) :
    Except GatewayError α :=
  match (Envelope.fields r).read (Doc.only body) with
  | .error _ =>
    .error { code := .rpcInvalidResponse, message := "Failed to parse response", hasCause := true }
  | .ok ⟨_, some e⟩ => .error e.toError
  | .ok ⟨some a, none⟩ => .ok a
  | .ok ⟨none, none⟩ => match absent with
    | some a => .ok a
    | none => .error (.invalidResponse "No result in response")

structure NodeTx where
  hash : TxHash
  sender : Address
  recipient : Option Address
  value : String
  input : List UInt8
  gas : String
deriving DecidableEq, Repr

namespace NodeTx

def fields : Fields NodeTx :=
  NodeTx.mk <$> .required "hash" (.fixedBytes 32) <*> .required "from" (.fixedBytes 20)
    <*> .nullable "to" (.fixedBytes 20) <*> .required "value" .text
    <*> .defaulted "input" .bytes [] <*> .required "gas" .text

def parse (s : String) : Except Fault NodeTx :=
  fields.read (Doc.only s)

def toPending (tx : NodeTx) : Except GatewayError PendingTx := do
  let value ← quantityWei tx.value
  let gasLimit ← quantityWord tx.gas
  return ⟨tx.hash, tx.sender, tx.recipient, value, tx.input, gasLimit⟩

end NodeTx

structure BlockHead where
  number : String
  baseFee : Option String
deriving DecidableEq, Repr

def BlockHead.fields : Fields BlockHead :=
  BlockHead.mk <$> .required "number" .text <*> .nullable "baseFeePerGas" .text

end MempoolGate.Rpc

namespace MempoolGate.PendingTx

open Json

def fields : Fields PendingTx :=
  PendingTx.mk <$> .required "hash" (.fixedBytes 32) <*> .required "from" (.fixedBytes 20)
    <*> .nullable "to" (.fixedBytes 20) <*> .required "value" .wei
    <*> .defaulted "input" .bytes [] <*> .required "gas_limit" .word

def parse (s : String) : Except Fault PendingTx :=
  fields.read (Doc.only s)

end MempoolGate.PendingTx
