import MempoolGate.Text.Decimal
import MempoolGate.Text.Hex

namespace MempoolGate.Url.Ipv4

def number? : List Char → Option Nat
  | [] => none
  | ['0'] => some 0
  | '0' :: c :: rest =>
    if c = 'x' ∨ c = 'X' then Text.digitsFrom? 16 Text.hexDigit? 0 rest
    else Text.digitsFrom? 8 Text.decimalDigit? 0 (c :: rest)
  | cs => Text.digitsFrom? 10 Text.decimalDigit? 0 cs

def parts (name : List Char) : List (List Char) :=
  match (name.splitOn '.').reverse with
  | [] :: rest => rest.reverse
  | all => all.reverse

/-- A host whose last part is a number can be nothing but such an address. -/
def endsInNumber (name : List Char) : Bool :=
  match (parts name).getLast? with
  | some last =>
    last ≠ [] && (last.all (fun c => '0' ≤ c && c ≤ '9') || (number? last).isSome)
  | none => false

def read? (name : List Char) : Option Nat := do
  let numbers ← (parts name).mapM number?
  let leading := numbers.dropLast
  let last ← numbers.getLast?
  if 4 < numbers.length ∨ leading.any (255 < ·) ∨ 1 <<< (8 * (4 - leading.length)) ≤ last then none
  else
    let places := leading.zipIdx.map fun (n, i) => n <<< (8 * (3 - i))
    some (places.foldl (· + ·) last)

def text (address : Nat) : String :=
  ".".intercalate ([24, 16, 8, 0].map fun shift => Text.decimal ((address >>> shift) % 256))

end MempoolGate.Url.Ipv4
