import MempoolGate.Feed.Event
import MempoolGate.Json.Decode
import MempoolGate.Json.Writer

namespace MempoolGate

open Json

def Json.Plain.ofOption : Option String → Plain
  | some s => .str s
  | none => .null

def TxReport.members (r : TxReport) : List (String × Plain) :=
  [("hash", .str r.hash), ("from", .str r.sender), ("to", .ofOption r.recipient),
   ("value", .str r.value), ("value_native", .str r.valueNative),
   ("calldata_prefix", .str r.selector), ("calldata_len", .int r.payloadLength.toNat),
   ("gas_limit", .int r.gasLimit.toNat), ("risk_score", .int r.riskScore.toNat),
   ("risk_level", .str r.riskLevel.name), ("risk_reasons", .list r.riskReasons),
   ("network", .str r.network), ("known_contract", .ofOption r.knownContract),
   ("timestamp", .int r.timestamp.toInt)]

def Event.members : Event → List (String × Plain)
  | .connected id network chainId endpointIndex message =>
    [("session_id", .str id.text), ("network", .str network), ("chain_id", .int chainId.toNat),
     ("endpoint_index", .int endpointIndex.toNat), ("message", .str message)]
  | .tx report => report.members
  | .failure network code message =>
    [("network", .str network), ("code", .str code), ("message", .str message)]

def Event.tagged (e : Event) : List (String × Plain) :=
  ("type", .str e.kind) :: e.members

/-- An event without its kind. Only a report is a value of its own, and it is one with members. -/
def Event.untagged : Event → Untagged
  | .tx report => .members report.members
  | e => .members e.members

def Event.typeName : Event → String
  | .connected .. => "StreamEvent::Connected"
  | .tx _ => "StreamEvent::Tx"
  | .failure .. => "StreamEvent::Error"

def Event.unwritable (message : String) : String :=
  "\x7b\"type\":\"error\",\"network\":\"\",\"code\":\"API_INTERNAL_ERROR\",\"message\":\"" ++
    message ++ "\"\x7d\n"

def Event.line (e : Event) : String :=
  match e.untagged.write e.typeName e.kind with
  | .ok cs => String.ofList (cs ++ ['\n'])
  | .error message => unwritable message

/-- A level by its name, which may also stand as the only key of an object. -/
def RiskLevel.reader : Reader RiskLevel
  | .obj (.cons key value .done) =>
    match value with
    | .null | .obj .done => Reader.textBy RiskLevel.ofName? (.str key)
    | _ => .error .unfit
  | d => Reader.textBy RiskLevel.ofName? d

def TxReport.fields : Fields TxReport :=
  TxReport.mk <$> .required "hash" .text <*> .required "from" .text <*> .nullable "to" .text
    <*> .required "value" .text <*> .required "value_native" .text
    <*> .required "calldata_prefix" .text <*> .required "calldata_len" .word
    <*> .required "gas_limit" .word <*> .required "risk_score" .byte
    <*> .required "risk_level" RiskLevel.reader
    <*> .required "risk_reasons" (.list .text) <*> .required "network" .text
    <*> .nullable "known_contract" .text <*> .required "timestamp" .signed

def Event.connectedFields : Fields Event :=
  Event.connected <$> .required "session_id" .uuid <*> .required "network" .text
    <*> .required "chain_id" .word <*> .required "endpoint_index" .word
    <*> .required "message" .text

def Event.failureFields : Fields Event :=
  Event.failure <$> .required "network" .text <*> .required "code" .text
    <*> .required "message" .text

def Event.fieldsOf? (kind : String) : Option (Fields Event) :=
  if kind = "connected" then some connectedFields
  else if kind = "tx" then some (Event.tx <$> TxReport.fields)
  else if kind = "error" then some failureFields
  else none

def Event.parse (s : String) : Except Fault Event := do
  let (kind, rest) ← (Doc.only s).tagged
  match fieldsOf? kind with
  | some fields => fields.readTagged rest
  | none => throw .unfit

end MempoolGate
