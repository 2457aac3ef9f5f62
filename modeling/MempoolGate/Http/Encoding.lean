import MempoolGate.Http.Request
import MempoolGate.Text.Blank
import MempoolGate.Text.Decimal

namespace MempoolGate.Http

inductive Encoding
  | identity
  | gzip
deriving DecidableEq, Repr

namespace Encoding

def rank : Encoding → Nat
  | identity => 0
  | gzip => 1

def ofName? (name : String) : Option Encoding :=
  if Text.equalsIgnoringCase name "gzip" || Text.equalsIgnoringCase name "x-gzip" then some gzip
  else if Text.equalsIgnoringCase name "identity" then some identity
  else none

def thousandths? (unit : Nat) : List Char → Option Nat
  | [] => some 0
  | c :: rest =>
    if unit = 0 then none
    else match Text.decimalDigit? c with
      | some d => (thousandths? (unit / 10) rest).map (d * unit + ·)
      | none => none

def weight? (s : String) : Option Nat :=
  match s.toList with
  | q :: '=' :: first :: rest =>
    if q ≠ 'q' ∧ q ≠ 'Q' then none
    else
      let whole? := if first = '0' then some 0 else if first = '1' then some 1000 else none
      let places? := match rest with
        | [] => some 0
        | '.' :: digits => thousandths? 100 digits
        | _ => none
      match whole?, places? with
      | some whole, some places => some (whole + places) |>.filter (· ≤ 1000)
      | _, _ => none
  | _ => none

def entry? (s : String) : Option (Encoding × Nat) :=
  match Text.cutAt? ';' s with
  | some (name, weight) => do
    return (← ofName? (Text.trim name), ← weight? (Text.trim weight))
  | none => (ofName? (Text.trim s)).map (·, 1000)

/-- The better of two entries; of equal ones the later. -/
def better (a b : Encoding × Nat) : Encoding × Nat :=
  if b.2 < a.2 ∨ (b.2 = a.2 ∧ b.1.rank < a.1.rank) then a else b

end Encoding

/-- The encoding of greatest weight among those that are wanted at all. -/
def Request.encoding (r : Request) : Encoding :=
  let parts := ((r.values "accept-encoding").filter Request.isVisible).flatMap fun value =>
    (value.toList.splitOn ',').map String.ofList
  match (parts.filterMap Encoding.entry?).filter (0 < ·.2) with
  | first :: rest => (rest.foldl Encoding.better first).1
  | [] => .identity

end MempoolGate.Http
