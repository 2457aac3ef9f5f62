namespace MempoolGate

inductive ErrorCode
  | rpcConnectionFailed
  | rpcTimeout
  | rpcRateLimited
  | rpcError
  | rpcInvalidResponse
  | wsConnectFailed
  | wsSubscribeFailed
  | wsStreamClosed
  | wsTransient
  | authKeyRequired
  | authInvalidKey
  | authAccountInactive
  | quotaLimitReached
  | apiBadRequest
  | apiInternalError
  | apiNotFound
  | apiUnavailable
  | simulationFailed
  | simulationTimeout
  | storeConflict
  | configInvalidValue
  | unknown
deriving DecidableEq, Repr

namespace ErrorCode

def all : List ErrorCode :=
  [rpcConnectionFailed, rpcTimeout, rpcRateLimited, rpcError, rpcInvalidResponse, wsConnectFailed,
   wsSubscribeFailed, wsStreamClosed, wsTransient, authKeyRequired, authInvalidKey,
   authAccountInactive, quotaLimitReached, apiBadRequest, apiInternalError, apiNotFound,
   apiUnavailable, simulationFailed, simulationTimeout, storeConflict, configInvalidValue, unknown]

def name : ErrorCode → String
  | rpcConnectionFailed => "RPC_CONNECTION_FAILED"
  | rpcTimeout => "RPC_TIMEOUT"
  | rpcRateLimited => "RPC_RATE_LIMITED"
  | rpcError => "RPC_ERROR"
  | rpcInvalidResponse => "RPC_INVALID_RESPONSE"
  | wsConnectFailed => "WS_CONNECT_FAILED"
  | wsSubscribeFailed => "WS_SUBSCRIBE_FAILED"
  | wsStreamClosed => "WS_STREAM_CLOSED"
  | wsTransient => "WS_TRANSIENT"
  | authKeyRequired => "AUTH_KEY_REQUIRED"
  | authInvalidKey => "AUTH_INVALID_KEY"
  | authAccountInactive => "AUTH_ACCOUNT_INACTIVE"
  | quotaLimitReached => "QUOTA_LIMIT_REACHED"
  | apiBadRequest => "API_BAD_REQUEST"
  | apiInternalError => "API_INTERNAL_ERROR"
  | apiNotFound => "API_NOT_FOUND"
  | apiUnavailable => "API_UNAVAILABLE"
  | simulationFailed => "SIM_FAILED"
  | simulationTimeout => "SIM_TIMEOUT"
  | storeConflict => "STORE_CONFLICT"
  | configInvalidValue => "CFG_INVALID_VALUE"
  | unknown => "UNKNOWN_ERROR"

def httpStatus : ErrorCode → Nat
  | apiBadRequest | configInvalidValue => 400
  | authKeyRequired | authInvalidKey | authAccountInactive => 401
  | apiNotFound => 404
  | storeConflict => 409
  | quotaLimitReached | rpcRateLimited => 429
  | rpcConnectionFailed | rpcError | rpcInvalidResponse | wsConnectFailed | wsSubscribeFailed
  | simulationFailed => 502
  | apiUnavailable => 503
  | rpcTimeout | simulationTimeout => 504
  | wsStreamClosed | wsTransient | apiInternalError | unknown => 500

def isRetryable : ErrorCode → Bool
  | rpcTimeout | rpcRateLimited | rpcConnectionFailed | wsTransient | quotaLimitReached => true
  | _ => false

end ErrorCode

/-- A failure with its message; `hasCause` says that another error lies behind it. -/
structure GatewayError where
  code : ErrorCode
  message : String
  hasCause : Bool := false
deriving DecidableEq, Repr

inductive Cause
  | inputOutput
  | json
  | report (text : String)
  | transport (text : String)
deriving DecidableEq, Repr

namespace GatewayError

def display (e : GatewayError) : String :=
  "[" ++ e.code.name ++ "] " ++ e.message

def ofCause : Cause → GatewayError
  | .inputOutput => ⟨.unknown, "IO error", true⟩
  | .json => ⟨.rpcInvalidResponse, "JSON parse error", true⟩
  | .report text => ⟨.unknown, text, false⟩
  | .transport text => ⟨.wsTransient, text, false⟩

def rateLimited : GatewayError :=
  { code := .rpcRateLimited, message := "Rate limited (HTTP 429)" }

def badRequest (message : String) : GatewayError :=
  { code := .apiBadRequest, message := message }

def invalidResponse (message : String) : GatewayError :=
  { code := .rpcInvalidResponse, message := message }

end GatewayError

end MempoolGate
