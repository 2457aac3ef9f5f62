import MempoolGate.Settings

namespace MempoolGate

/-- The usable networks in the order given; of two with the same id the later one counts. -/
structure Registry where
  networks : List Network
  defaultId : String
deriving DecidableEq, Repr

structure NetworkSummary where
  id : String
  name : String
  chainId : UInt64
  symbol : String
  explorer : String
  wsEndpoints : Nat
deriving DecidableEq, Repr

/-- The id that a name stands for: a catalogue id, or else the name itself in its folded form. -/
def networkKey (name : String) : String :=
  (canonicalNetworkId? name).getD (foldName name)

def Network.summary (net : Network) : NetworkSummary :=
  ⟨net.id, net.name, net.chainId, net.symbol, net.explorer, net.wsUrls.length⟩

def Network.placeholder : Network :=
  { id := defaultNetworkId, chainId := 0, name := "", symbol := "", httpUrl := "", wsUrls := [],
    explorer := "" }

namespace Registry

def find? (r : Registry) (id : String) : Option Network :=
  r.networks.reverse.find? (·.id = id)

/-- The networks that have an endpoint for streams; the default is the one named, or else the
default of the catalogue, or else the first. -/
def ofNetworks (networks : List Network) (defaultName : String) : Registry :=
  let usable := networks.filter (·.wsUrls ≠ [])
  let isRegistered (id : String) := usable.any (·.id = id)
  let wanted := networkKey defaultName
  let defaultId :=
    if isRegistered wanted then wanted
    else if isRegistered defaultNetworkId then defaultNetworkId
    else (usable.head?.map (·.id)).getD ""
  ⟨usable, defaultId⟩

def ofEnvironment (defaultName : String) (env : Environment) : Registry :=
  ofNetworks (catalogue.map (·.configure env)) defaultName

def defaultNetwork (r : Registry) : Network :=
  (r.find? r.defaultId).getD .placeholder

def resolve (r : Registry) (name : String) : Network :=
  (r.find? (networkKey (foldName name))).getD r.defaultNetwork

def isKnown (r : Registry) (name : String) : Bool :=
  (r.find? (networkKey (foldName name))).isSome

/-- The registered networks in order, with the data that looking them up gives. -/
def list (r : Registry) : List NetworkSummary :=
  r.networks.filterMap fun net => (r.find? net.id).map Network.summary

end Registry

end MempoolGate
