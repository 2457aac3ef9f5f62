namespace MempoolGate.Risk

def selectors : List (List UInt8 × String) :=
  [([0xa9, 0x05, 0x9c, 0xbb], "transfer"),
   ([0x23, 0xb8, 0x72, 0xdd], "transferFrom"),
   ([0x09, 0x5e, 0xa7, 0xb3], "approve"),
   ([0x42, 0x84, 0x2e, 0x0e], "safeTransferFrom"),
   ([0xb8, 0x8d, 0x4f, 0xde], "safeTransferFrom"),
   ([0xa2, 0x2c, 0xb4, 0x65], "setApprovalForAll"),
   ([0x39, 0x50, 0x93, 0x51], "increaseAllowance"),
   ([0xd5, 0x05, 0xac, 0xcf], "permit"),
   ([0x9c, 0xb8, 0xa2, 0x6a], "selfDestruct"),
   ([0x41, 0xc0, 0xe1, 0xb5], "kill"),
   ([0x83, 0x19, 0x7e, 0xf0], "destroy")]

/-- The function that a payload of at least four bytes calls, if it is one of the table. -/
def riskyCall? (input : List UInt8) : Option String :=
  selectors.lookup (input.take 4)

end MempoolGate.Risk
