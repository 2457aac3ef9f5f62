import MempoolGate.Chain.Network
import MempoolGate.Text.Decimal
import MempoolGate.Text.Percent

namespace MempoolGate

abbrev Environment := String → Option String

/-- The entries between commas, trimmed, the blank ones left out. -/
def endpointList (raw : String) : List String :=
  ((raw.toList.splitOn ',').map fun part => Text.trim (String.ofList part)).filter (· ≠ "")

/-- The network of a catalogue entry with its endpoints overridden where a variable gives any. -/
def CatalogueEntry.configure (entry : CatalogueEntry) (env : Environment) : Network :=
  let httpUrl := (env (entry.envStem ++ "_HTTP_URL")).bind Text.trimmed?
  let wsUrls := ((env (entry.envStem ++ "_WSS_URL")).map endpointList).filter (· ≠ [])
  { entry.network with
    httpUrl := httpUrl.getD entry.network.httpUrl
    wsUrls := wsUrls.getD entry.network.wsUrls }

structure Settings where
  host : String := "0.0.0.0"
  port : Nat := 8080
  defaultNetwork : String := defaultNetworkId
  heartbeatSecs : Nat := 15
  sessionCap : Nat := 500
  resolveConcurrency : Nat := 8
  channelCapacity : Nat := 256
  rpcTimeoutSecs : Nat := 10
  simulationCommand : String := "python main.py"
  simulationTimeoutSecs : Nat := 15
  bootstrapKey : Option String := none
  bootstrapPlan : String := "demo"
deriving DecidableEq, Repr

namespace Settings

def maxWord : Nat := UInt64.size - 1

def number (bound fallback : Nat) (raw : Option String) : Nat :=
  (raw.bind fun v => Text.unsigned? bound (Text.trim v)).getD fallback

def seconds (fallback : Nat) (raw : Option String) : Nat :=
  match number maxWord fallback raw with
  | 0 => fallback
  | n => n

def nonBlank (raw : Option String) : Option String :=
  raw.filter fun v => (Text.trimmed? v).isSome

def ofEnvironment (env : Environment) : Settings :=
  let d : Settings := {}
  { host := (env "SHADOWGUARD_HOST").getD d.host
    port := number 65535 d.port ((env "PORT").or (env "SHADOWGUARD_PORT"))
    defaultNetwork :=
      (((env "SHADOWGUARD_DEFAULT_NETWORK").map foldName).filter (· ≠ "")).getD d.defaultNetwork
    heartbeatSecs := seconds d.heartbeatSecs (env "SHADOWGUARD_HEARTBEAT_SECS")
    sessionCap := number maxWord d.sessionCap (env "SHADOWGUARD_SESSION_CAP")
    resolveConcurrency :=
      max 1 (number maxWord d.resolveConcurrency (env "SHADOWGUARD_RESOLVE_CONCURRENCY"))
    channelCapacity :=
      max 1 (number maxWord d.channelCapacity (env "SHADOWGUARD_CHANNEL_CAPACITY"))
    rpcTimeoutSecs := seconds d.rpcTimeoutSecs (env "RPC_TIMEOUT_SECS")
    simulationCommand := (nonBlank (env "SIMULATION_COMMAND")).getD d.simulationCommand
    simulationTimeoutSecs := seconds d.simulationTimeoutSecs (env "SIMULATION_TIMEOUT")
    bootstrapKey := nonBlank (env "GATEWAY_BOOTSTRAP_KEY")
    bootstrapPlan := (env "GATEWAY_BOOTSTRAP_PLAN").getD d.bootstrapPlan }

def lastSecond : Nat := (1 <<< 63) - 1

/-- A heartbeat that is started when the clock reads so many seconds beats if it has a period and the
clock can tell the time of its first beat. Otherwise its task panics. -/
def heartbeatBeats (s : Settings) (clock : Nat) : Bool :=
  0 < s.heartbeatSecs && clock + s.heartbeatSecs ≤ lastSecond

def bindAddress (s : Settings) : String :=
  s.host ++ ":" ++ Text.decimal s.port

end Settings

end MempoolGate
