import MempoolGate.Text.Hex
import MempoolGate.Text.Utf8

namespace MempoolGate.Text

def percentBytes : List UInt8 → List UInt8
  | [] => []
  | 0x25 :: a :: b :: rest =>
    match hexDigit? (Char.ofNat a.toNat), hexDigit? (Char.ofNat b.toNat) with
    | some high, some low => UInt8.ofNat (16 * high + low) :: percentBytes rest
    | _, _ => 0x25 :: percentBytes (a :: b :: rest)
  | b :: rest => b :: percentBytes rest

def percentDecode? (s : String) : Option String :=
  utf8Decode? (percentBytes (utf8Encode s))

/-- A name or value of a query: a plus sign stands for a space, ill-formed bytes are replaced. -/
def formDecode (s : String) : String :=
  utf8Replace (percentBytes ((utf8Encode s).map fun b => if b = 0x2B then 0x20 else b))

def cutAt? (mark : Char) (s : String) : Option (String × String) :=
  let cs := s.toList
  match cs.dropWhile (· ≠ mark) with
  | _ :: rest => some (String.ofList (cs.takeWhile (· ≠ mark)), String.ofList rest)
  | [] => none

/-- The names and values of a query, in order; an empty part is no pair, and a part without an equals
sign has the empty value. -/
def formPairs (query : String) : List (String × String) :=
  ((query.toList.splitOn '&').filter (· ≠ [])).map fun part =>
    match cutAt? '=' (String.ofList part) with
    | some (name, value) => (formDecode name, formDecode value)
    | none => (formDecode (String.ofList part), "")

end MempoolGate.Text
