import MempoolGate.Text.Blank
import MempoolGate.Text.Hex

namespace MempoolGate.Text

def inRanges (table : List (Nat × Nat)) (c : Char) : Bool :=
  table.any fun r => r.1 ≤ c.toNat && c.toNat ≤ r.2

def cutAround (mark : Char) (cs : List Char) : List Char × List Char :=
  (cs.takeWhile (· ≠ mark), (cs.dropWhile (· ≠ mark)).drop 1)

def hexValue (digits : List Char) : Nat :=
  digits.foldl (fun n c => 16 * n + (hexDigit? c).getD 0) 0

def hexChar (digits : List Char) : Char :=
  Char.ofNat (hexValue digits)

def readRun (word : List Char) : Nat × Nat :=
  match cutAround '-' word with
  | (first, []) => (hexValue first, hexValue first)
  | (first, last) => (hexValue first, hexValue last)

def readRuns (table : String) : List (Nat × Nat) :=
  (words table).map fun word => readRun word.toList

end MempoolGate.Text
