import MempoolGate.Text.Decimal
import MempoolGate.Text.Hex

namespace MempoolGate.Url.Ipv6

def piece? (cs : List Char) : Option Nat :=
  if cs = [] ∨ 4 < cs.length then none else Text.digitsFrom? 16 Text.hexDigit? 0 cs

def byte? (cs : List Char) : Option Nat :=
  if cs = [] ∨ (cs.head? = some '0' ∧ cs ≠ ['0']) then none
  else (Text.digitsFrom? 10 Text.decimalDigit? 0 cs).filter (· ≤ 255)

def quad? (cs : List Char) : Option (List Nat) :=
  match (cs.splitOn '.').map byte? with
  | [some a, some b, some c, some d] => some [256 * a + b, 256 * c + d]
  | _ => none

def row? (cs : List Char) : Option (List Nat) :=
  if cs = [] then some [] else (cs.splitOn ':').mapM piece?

def lastRow? (cs : List Char) : Option (List Nat) :=
  let tail := (cs.reverse.takeWhile (· ≠ ':')).reverse
  if tail.contains '.' then do
    let pair ← quad? tail
    match (cs.take (cs.length - tail.length)).reverse with
    | [] => return pair
    | _ :: [] => none
    | _ :: before => return (← row? before.reverse) ++ pair
  else row? cs

def cutAtGap? : List Char → Option (List Char × List Char)
  | ':' :: ':' :: rest => some ([], rest)
  | c :: rest => (cutAtGap? rest).map fun (before, after) => (c :: before, after)
  | [] => none

def read? (cs : List Char) : Option (List Nat) := do
  match cutAtGap? cs with
  | some (before, after) =>
    let before ← row? before
    let after ← lastRow? after
    let given := before.length + after.length
    if given ≤ 7 then return before ++ List.replicate (8 - given) 0 ++ after else none
  | none =>
    let pieces ← lastRow? cs
    if pieces.length = 8 then return pieces else none

def zeros (pieces : List Nat) : Nat := (pieces.takeWhile (· = 0)).length

/-- The length of the longest row of zeros. -/
def longestGap : List Nat → Nat
  | [] => 0
  | piece :: rest => max (zeros (piece :: rest)) (longestGap rest)

def gapPlace (gap : Nat) : List Nat → Nat
  | [] => 0
  | piece :: rest => if zeros (piece :: rest) = gap then 0 else gapPlace gap rest + 1

def rowText (pieces : List Nat) : List Char :=
  [':'].intercalate (pieces.map (Nat.toDigits 16))

def text (pieces : List Nat) : String :=
  let gap := longestGap pieces
  let place := gapPlace gap pieces
  if gap < 2 then String.ofList (rowText pieces)
  else
    String.ofList (rowText (pieces.take place) ++ [':', ':'] ++ rowText (pieces.drop (place + gap)))

end MempoolGate.Url.Ipv6
