import MempoolGate.Digest.Keccak256
import MempoolGate.Text.Hex
import MempoolGate.Text.Utf8

namespace MempoolGate

structure FixedBytes (n : Nat) where
  bytes : List UInt8
  length_eq : bytes.length = n
deriving DecidableEq, Repr

abbrev Address := FixedBytes 20

abbrev TxHash := FixedBytes 32

namespace FixedBytes

variable {n : Nat}

def ofBytes? (n : Nat) (bytes : List UInt8) : Option (FixedBytes n) :=
  if h : bytes.length = n then some ⟨bytes, h⟩ else none

def parse? (n : Nat) (s : String) : Option (FixedBytes n) :=
  (Text.hexBytes? s).bind (ofBytes? n)

def filled (n : Nat) (b : UInt8) : FixedBytes n :=
  ⟨List.replicate n b, List.length_replicate⟩

def hex (x : FixedBytes n) : String :=
  Text.hexText x.bytes

end FixedBytes

def raiseDigit (c : Char) (digest : UInt8) : Char :=
  if 8 ≤ digest.toNat then c.toUpper else c

def halves (bytes : List UInt8) : List UInt8 :=
  bytes.flatMap fun b => [b / 16, b % 16]

/-- The address with the case of its letters chosen by the digest of its lower-case digits. -/
def FixedBytes.checksummed (x : Address) : String :=
  let digits := Text.hexEncode x.bytes
  let digest := halves (Digest.Keccak256.digest (digits.map fun c => UInt8.ofNat c.toNat))
  String.ofList ('0' :: 'x' :: digits.zipWith raiseDigit digest)

end MempoolGate
