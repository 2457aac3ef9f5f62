import MempoolGate.Idna.MappingTable
import MempoolGate.Text.CharTable

namespace MempoolGate.Idna

/-- Where characters go: those of a run to those of another, or one after the other to texts. -/
inductive Mapping
  | run (first last step target : Nat)
  | listed (first : Nat) (targets : List (List Char))

namespace Mapping

def read (word : String) : Mapping :=
  let (source, targets) := Text.cutAround '>' word.toList
  match Text.cutAround '-' source with
  | (first, []) =>
    let target (t : List Char) : List Char := (t.splitOn '+').map Text.hexChar
    .listed (Text.hexValue first) ((targets.splitOn ',').map target)
  | (first, rest) =>
    let (last, step) := Text.cutAround '/' rest
    .run (Text.hexValue first) (Text.hexValue last) (max 1 (Text.hexValue step))
      (Text.hexValue targets)

def target? (n : Nat) : Mapping → Option (List Char)
  | run first last step target =>
    if first ≤ n ∧ n ≤ last ∧ (n - first) % step = 0 then some [Char.ofNat (target + (n - first))]
    else none
  | listed first targets => if first ≤ n then targets[n - first]? else none

end Mapping

def refused : List (Nat × Nat) :=
  Text.readRuns MappingTable.refused

def ignored : List (Nat × Nat) :=
  Text.readRuns MappingTable.ignored

def mappings : List Mapping :=
  (Text.words MappingTable.mapped).map Mapping.read

def target? (c : Char) : Option (List Char) :=
  if Text.inRanges refused c then none
  else if Text.inRanges ignored c then some []
  else some ((mappings.findSome? (·.target? c.toNat)).getD [c])

def isKept (c : Char) : Bool :=
  target? c == some [c]

def mapped? (cs : List Char) : Option (List Char) :=
  (cs.mapM target?).map List.flatten

end MempoolGate.Idna
