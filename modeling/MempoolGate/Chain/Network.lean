import MempoolGate.Text.Lowercase
import MempoolGate.Text.Blank

namespace MempoolGate

structure Network where
  id : String
  chainId : UInt64
  name : String
  symbol : String
  httpUrl : String
  wsUrls : List String
  explorer : String
deriving DecidableEq, Repr

def Network.txUrl (net : Network) (hash : String) : String :=
  net.explorer ++ "/tx/" ++ hash

/-- A network of the catalogue, and the stem of the variables that override its endpoints. -/
structure CatalogueEntry where
  envStem : String
  network : Network
deriving DecidableEq, Repr

namespace Chain

def ethereum : UInt64 := 1
def sepolia : UInt64 := 11155111
def polygon : UInt64 := 137
def bsc : UInt64 := 56
def arbitrum : UInt64 := 42161
def base : UInt64 := 8453

end Chain

def catalogue : List CatalogueEntry :=
  [⟨"SEPOLIA",
     { id := "sepolia", chainId := Chain.sepolia, name := "Ethereum Sepolia Testnet",
       symbol := "ETH", httpUrl := "https://ethereum-sepolia-rpc.publicnode.com",
       wsUrls := ["wss://ethereum-sepolia-rpc.publicnode.com", "wss://sepolia.drpc.org"],
       explorer := "https://sepolia.etherscan.io" }⟩,
   ⟨"ETH",
     { id := "ethereum", chainId := Chain.ethereum, name := "Ethereum", symbol := "ETH",
       httpUrl := "https://ethereum-rpc.publicnode.com",
       wsUrls := ["wss://ethereum-rpc.publicnode.com", "wss://eth.drpc.org"],
       explorer := "https://etherscan.io" }⟩,
   ⟨"POLYGON",
     { id := "polygon", chainId := Chain.polygon, name := "Polygon", symbol := "POL",
       httpUrl := "https://polygon-rpc.com",
       wsUrls := ["wss://polygon-bor-rpc.publicnode.com", "wss://polygon.drpc.org"],
       explorer := "https://polygonscan.com" }⟩,
   ⟨"BSC",
     { id := "bsc", chainId := Chain.bsc, name := "BNB Smart Chain", symbol := "BNB",
       httpUrl := "https://bsc-dataseed.binance.org",
       wsUrls := ["wss://bsc-rpc.publicnode.com", "wss://bsc.drpc.org"],
       explorer := "https://bscscan.com" }⟩,
   ⟨"ARBITRUM",
     { id := "arbitrum", chainId := Chain.arbitrum, name := "Arbitrum One", symbol := "ETH",
       httpUrl := "https://arb1.arbitrum.io/rpc",
       wsUrls := ["wss://arbitrum-one-rpc.publicnode.com"],
       explorer := "https://arbiscan.io" }⟩,
   ⟨"BASE",
     { id := "base", chainId := Chain.base, name := "Base", symbol := "ETH",
       httpUrl := "https://mainnet.base.org",
       wsUrls := ["wss://base-rpc.publicnode.com", "wss://base.drpc.org"],
       explorer := "https://basescan.org" }⟩]

def defaultNetworkId : String := "sepolia"

def networkAliases : List (String × String) :=
  [("eth", "ethereum"), ("mainnet", "ethereum"), ("ethereum", "ethereum"), ("1", "ethereum"),
   ("sepolia", "sepolia"), ("11155111", "sepolia"),
   ("polygon", "polygon"), ("matic", "polygon"), ("137", "polygon"),
   ("bsc", "bsc"), ("bnb", "bsc"), ("56", "bsc"),
   ("arbitrum", "arbitrum"), ("arb", "arbitrum"), ("42161", "arbitrum"),
   ("base", "base"), ("8453", "base")]

/-- Names are compared without surrounding white space and in lower case. -/
def foldName (s : String) : String :=
  Text.lowercase (Text.trim s)

/-- The catalogue id behind a name or a decimal chain id. -/
def canonicalNetworkId? (s : String) : Option String :=
  networkAliases.lookup (foldName s)

end MempoolGate
