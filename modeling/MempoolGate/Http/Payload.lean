import MempoolGate.Feed.Line
import MempoolGate.Gateway.State
import MempoolGate.Release
import MempoolGate.Simulation.Request

namespace MempoolGate.Http

open Json

structure AccountState where
  network : Network
  address : Address
  balance : Wei
  nonce : UInt64
  code : List UInt8
deriving DecidableEq, Repr

structure GasState where
  network : Network
  chainId : UInt64
  blockNumber : UInt64
  gasPrice : Wei
  baseFee : Option Wei
deriving DecidableEq, Repr

structure ClassifyReport where
  network : String
  verdict : Risk.Classification
  knownContract : Option String
  selector : String
deriving DecidableEq, Repr

inductive Payload
  | health (activeSessions : Nat)
  | networks (defaultId : String) (list : List NetworkSummary)
  | stats (telemetry : Telemetry) (liveHeartbeats clients : Nat) (sessions : List SessionInfo)
  | classified (report : ClassifyReport)
  | simulated (outcome : Simulation.Outcome)
  | account (state : AccountState)
  | gas (state : GasState)
  | transaction (report : TxReport)

def natValue (n : Nat) : Value := .num (.whole n)

def optional {α : Type} (f : α → Value) : Option α → Value
  | some a => f a
  | none => .null

def texts (xs : List String) : Value := .arr (xs.map .str)

def plainValue : Plain → Value
  | .null => .null
  | .int n => .num (.whole n)
  | .str s => .str s
  | .list xs => texts xs

def SessionInfo.value (s : SessionInfo) : Value :=
  .obj [("network", .str s.network), ("endpoint_index", natValue s.endpointIndex.toNat)]

def summaryValue (s : NetworkSummary) : Value :=
  .obj [("id", .str s.id), ("name", .str s.name), ("chain_id", natValue s.chainId.toNat),
    ("symbol", .str s.symbol), ("explorer", .str s.explorer),
    ("ws_endpoints", natValue s.wsEndpoints)]

def AccountState.value (a : AccountState) : Value :=
  let address := a.address.checksummed
  .obj [("network", .str a.network.id), ("chain_id", natValue a.network.chainId.toNat),
    ("address", .str address), ("balance_wei", .str a.balance.decimal),
    ("balance_native", .str a.balance.native), ("symbol", .str a.network.symbol),
    ("nonce", natValue a.nonce.toNat), ("is_contract", .bool (a.code ≠ [])),
    ("code_size", natValue a.code.length),
    ("explorer_url", .str (a.network.explorer ++ "/address/" ++ address))]

def GasState.value (s : GasState) : Value :=
  .obj [("network", .str s.network.id), ("chain_id", natValue s.chainId.toNat),
    ("block_number", natValue s.blockNumber.toNat), ("gas_price_wei", .str s.gasPrice.decimal),
    ("gas_price_gwei", .num (.real s.gasPrice.gwei)),
    ("base_fee_wei", optional (fun w : Wei => .str w.decimal) s.baseFee),
    ("base_fee_gwei", optional (fun w : Wei => .num (.real w.gwei)) s.baseFee)]

def ClassifyReport.value (r : ClassifyReport) : Value :=
  .obj [("network", .str r.network), ("risk_score", natValue r.verdict.score),
    ("risk_level", .str r.verdict.level.name), ("risk_reasons", texts r.verdict.reasons),
    ("known_contract", optional .str r.knownContract), ("calldata_prefix", .str r.selector)]

def Payload.value : Payload → Value
  | health activeSessions =>
    .obj [("status", .str "healthy"), ("version", .str Release.version),
      ("active_sessions", natValue activeSessions)]
  | networks defaultId list =>
    .obj [("default_network", .str defaultId), ("networks", .arr (list.map summaryValue))]
  | stats telemetry heartbeats clients sessions =>
    .obj (telemetry.counters.map (fun c => (c.1, natValue c.2)) ++
      [("live_heartbeats", natValue heartbeats), ("http_clients", natValue clients),
       ("sessions", .arr (sessions.map SessionInfo.value))])
  | classified report => report.value
  | simulated outcome =>
    .obj [("record", outcome.record),
      ("execution_time_s", optional (fun x => .num (.real x)) outcome.seconds),
      ("steps", natValue outcome.steps)]
  | account state => state.value
  | gas state => state.value
  | transaction report => .obj (report.members.map fun m => (m.1, plainValue m.2))

structure Complaint where
  code : ErrorCode
  message : String
  details : Option String
deriving DecidableEq, Repr

def Complaint.ofError (e : GatewayError) : Complaint :=
  ⟨e.code, e.message, none⟩

def Complaint.ofRejection (r : Rejection) : Complaint :=
  ⟨r.code, r.message, r.details⟩

def envelope : Except Complaint Payload → Value
  | .ok payload => .obj [("success", .bool true), ("data", payload.value)]
  | .error c =>
    let details := match c.details with
      | some d => [("details", Value.str d)]
      | none => []
    .obj [("success", .bool false),
      ("error", .obj ([("code", .str c.code.name), ("message", .str c.message)] ++ details))]

end MempoolGate.Http
