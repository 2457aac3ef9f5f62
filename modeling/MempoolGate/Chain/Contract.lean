import MempoolGate.Chain.Bytes
import MempoolGate.Chain.Network

namespace MempoolGate

def labelledContracts : List (UInt64 × String × String) :=
  [(Chain.ethereum, "0x7a250d5630B4cF539739dF2C5dAcb4c659F2488D", "Uniswap V2 Router"),
   (Chain.ethereum, "0xE592427A0AEce92De3Edee1F18E0157C05861564", "Uniswap V3 Router"),
   (Chain.ethereum, "0x68b3465833fb72A70ecDF485E0e4C7bD8665Fc45", "Uniswap V3 Router 2"),
   (Chain.ethereum, "0xd9e1cE17f2641f24aE83637ab66a2cca9C378B9F", "SushiSwap Router"),
   (Chain.ethereum, "0x1111111254EEB25477B68fb85Ed929f73A960582", "1inch Router V5"),
   (Chain.ethereum, "0xC02aaA39b223FE8D0A0e5C4F27eAD9083C756Cc2", "WETH"),
   (Chain.ethereum, "0xA0b86991c6218b36c1d19D4a2e9Eb0cE3606eB48", "USDC"),
   (Chain.sepolia, "0xC532a74256D3Db42D0Bf7a0400fEFDbad7694008", "Uniswap V2 Router"),
   (Chain.sepolia, "0x7b79995e5f793A07Bc00c21412e50Ecae098E7f9", "WETH"),
   (Chain.sepolia, "0x1c7D4B196Cb0C7B01d743Fbc6116a902379C7238", "USDC"),
   (Chain.sepolia, "0x6Ae43d3271ff6888e7Fc43Fd7321a503ff738951", "Aave V3 Pool"),
   (Chain.bsc, "0x10ED43C718714eb63d5aA57B78B54704E256024E", "PancakeSwap V2 Router"),
   (Chain.polygon, "0xa5E0829CaCEd8fFDD4De3c43696c57F7D7A678ff", "QuickSwap Router"),
   (Chain.base, "0x4200000000000000000000000000000000000006", "WETH")]

def contractLabel? (chainId : UInt64) (address : Address) : Option String :=
  labelledContracts.findSome? fun (chain, digits, label) =>
    if chain = chainId ∧ FixedBytes.parse? 20 digits = some address then some label else none

end MempoolGate
