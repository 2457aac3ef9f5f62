import MempoolGate.Chain.Bytes
import MempoolGate.Text.Lowercase

namespace MempoolGate

abbrev Uuid := FixedBytes 16

namespace Uuid

def nil : Uuid := .filled 16 0

def text (u : Uuid) : String :=
  let d := Text.hexEncode u.bytes
  let group (start count : Nat) := (d.drop start).take count
  String.ofList (group 0 8 ++ '-' :: group 8 4 ++ '-' :: group 12 4 ++ '-' :: group 16 4 ++
    '-' :: group 20 12)

def ungroup? (cs : List Char) : Option (List Char) :=
  match cs.splitOn '-' with
  | [a, b, c, d, e] =>
    if [a, b, c, d, e].map List.length = [8, 4, 4, 4, 12] then some (a ++ b ++ c ++ d ++ e) else none
  | _ => none

/-- Digits of either case: all in a row, in groups, in groups within braces, or in groups behind
`urn:uuid:`, itself in any case. -/
def parse? (s : String) : Option Uuid :=
  let cs := s.toList
  let digits :=
    if cs.length = 32 then some cs
    else if cs.length = 36 then ungroup? cs
    else if cs.length = 38 ∧ cs.head? = some '\x7b' ∧ cs.getLast? = some '\x7d' then
      ungroup? (cs.drop 1).dropLast
    else if cs.length = 45 ∧ (cs.take 9).map Text.asciiLower = "urn:uuid:".toList then
      ungroup? (cs.drop 9)
    else none
  (digits.bind Text.hexDecode?).bind (FixedBytes.ofBytes? 16)

end Uuid

end MempoolGate
