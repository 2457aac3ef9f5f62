import MempoolGate.Digest.Sha256
import MempoolGate.Text.Blank
import MempoolGate.Text.Hex
import MempoolGate.Text.Utf8

namespace MempoolGate.Key

def normalize? (raw : String) : Option String :=
  Text.trimmed? raw

def hash (key : String) : String :=
  String.ofList (Text.hexEncode (Digest.Sha256.digest (Text.utf8Encode key)))

/-- At most ten characters, and never more than half of the key, may be shown. -/
def visiblePart (key : String) : String :=
  let cs := key.toList
  String.ofList (cs.take (min 10 (cs.length / 2)))

def issuedMark : String := "sg_"

def randomLength : Nat := 40

def issue (random : List Char) : String :=
  issuedMark ++ String.ofList random

end MempoolGate.Key
