import MempoolGate.Registry
import MempoolGate.Rpc.Reply
import MempoolGate.Rpc.Status
import MempoolGate.Rpc.Endpoint

namespace MempoolGate.Rpc

open Json

structure Request where
  url : String
  id : UInt64
  method : String
  params : Value
  attempt : Nat

/-- What becomes of an attempt, the redirections that it follows by itself included. What breaks off before
an answer begins, neither for want of a connection nor of time, is told in words. A body that is not there
never came to its end; one that is there is text, and bytes that are none are left out. -/
inductive Exchange
  | refused
  | stalled
  | broken (report : String)
  | answered (status : Nat) (body : Option String)
deriving DecidableEq, Repr

abbrev Node := Request → Exchange

def Node.unreachable : Node := fun _ => .refused

def maxAttempts : Nat := 3

/-- Milliseconds to wait before trying again for the `attempt`-th time, before they are scattered:
twice as many each time, from 250 up to 4000. -/
def backoff (attempt : Nat) : Nat :=
  250 * Nat.pow 2 (min (attempt - 1) 4)

def isTransient : ErrorCode → Bool
  | .rpcTimeout | .rpcRateLimited | .rpcConnectionFailed => true
  | _ => false

def Exchange.outcome {α : Type} (decode : String → Except GatewayError α) :
    Exchange → Except GatewayError α
  | refused => .error { code := .rpcConnectionFailed, message := "Connection failed" }
  | stalled => .error { code := .rpcTimeout, message := "Request timeout" }
  | broken report => .error { code := .rpcError, message := report }
  | answered status body =>
    if status = 429 then .error .rateLimited
    else if 200 ≤ status ∧ status ≤ 299 then
      match body with
      | some text => decode text
      | none =>
        .error
          { code := .rpcInvalidResponse, message := "Failed to parse response", hasCause := true }
    else .error { code := .rpcError, message := "HTTP error: " ++ Http.statusText status }

structure Call (α : Type) where
  attempts : List Request
  outcome : Except GatewayError α

/-- At most `budget` attempts more, the first of them being number `attempt`. -/
def tryCall {α : Type} (node : Node) (decode : String → Except GatewayError α) (first : Request) :
    Nat → Nat → Call α
  -- out of reach for a call, whose budget is not zero and is used up in the last branch
  | 0, _ => ⟨[], .error { code := .rpcTimeout, message := "Request timeout" }⟩
  | budget + 1, attempt =>
    let request := { first with attempt := attempt }
    match (node request).outcome decode with
    | .ok a => ⟨[request], .ok a⟩
    | .error e =>
      if isTransient e.code ∧ budget ≠ 0 then
        let rest := tryCall node decode first budget (attempt + 1)
        ⟨request :: rest.attempts, rest.outcome⟩
      else ⟨[request], .error e⟩

/-- A client for the node of one network. Every call takes the next number of 64 bits. -/
structure Client where
  serial : Nat
  network : Network
  nextId : UInt64 := 1

namespace Client

/-- A call with its parameters. No attempt is made to an address that cannot be asked. -/
def call {α : Type} (c : Client) (node : Node) (method : String) (params : Value)
    (decode : String → Except GatewayError α) : Call α × Client :=
  let next := { c with nextId := c.nextId + 1 }
  match checkEndpoint c.network.httpUrl with
  | .error fault => (⟨[], .error { code := .rpcError, message := fault.message }⟩, next)
  | .ok () =>
    (tryCall node decode ⟨c.network.httpUrl, c.nextId, method, params, 1⟩ maxAttempts 1, next)

def maskedUrl (c : Client) : String :=
  maskUrl c.network.httpUrl

end Client

structure Query (α : Type) where
  method : String
  params : Value
  decode : String → Except GatewayError α

namespace Query

def ofText {α : Type} (method : String) (params : List Value)
    (parse : String → Except GatewayError α) : Query α :=
  ⟨method, .arr params, fun body => decodeReply .text none body >>= parse⟩

def ofOption {α β : Type} (method : String) (params : List Value) (r : Reader β)
    (parse : Option β → Except GatewayError α) : Query α :=
  ⟨method, .arr params, fun body => decodeReply (.nullable r) (some none) body >>= parse⟩

def chainId : Query UInt64 := ofText "eth_chainId" [] quantityWord

def blockNumber : Query UInt64 := ofText "eth_blockNumber" [] quantityWord

def gasPrice : Query Wei := ofText "eth_gasPrice" [] quantityWei

def latestOf (address : Address) : List Value := [.str address.hex, .str "latest"]

def balance (address : Address) : Query Wei :=
  ofText "eth_getBalance" (latestOf address) quantityWei

def nonce (address : Address) : Query UInt64 :=
  ofText "eth_getTransactionCount" (latestOf address) quantityWord

def code (address : Address) : Query (List UInt8) :=
  ⟨"eth_getCode", .arr (latestOf address), decodeReply .bytes none⟩

def baseFee : Query (UInt64 × Option Wei) :=
  ofOption "eth_getBlockByNumber" [.str "latest", .bool false] BlockHead.fields.read fun
    | none => .error (.invalidResponse "Latest block missing")
    | some head => do
      let number ← quantityWord head.number
      let fee ← match head.baseFee with
        | some raw => (quantityWei raw).map some
        | none => .ok none
      return (number, fee)

def transaction (hash : TxHash) : Query (Option PendingTx) :=
  ofOption "eth_getTransactionByHash" [.str hash.hex] NodeTx.fields.read fun
    | none => .ok none
    | some tx => tx.toPending.map some

def raw (method : String) (params : Value) : Query Value :=
  ⟨method, params, decodeReply .any (some .null)⟩

end Query

def Client.ask {α : Type} (c : Client) (node : Node) (q : Query α) : Call α × Client :=
  c.call node q.method q.params q.decode

end MempoolGate.Rpc
