import MempoolGate.Number.Binary64
import MempoolGate.Number.Literal
import MempoolGate.Text.Hex

namespace MempoolGate

structure Wei where
  toNat : Nat
  lt_limit : toNat < Literal.limit
deriving DecidableEq, Repr

namespace Wei

def ofNat? (n : Nat) : Option Wei :=
  if h : n < Literal.limit then some ⟨n, h⟩ else none

def zero : Wei := ⟨0, by decide⟩

instance : Inhabited Wei := ⟨zero⟩

def parse? (s : String) : Option Wei :=
  (Literal.value? s).bind ofNat?

def decimal (w : Wei) : String :=
  Text.decimal w.toNat

def hex (w : Wei) : String :=
  Text.hexQuantity w.toNat

end Wei

def weiPerNative : Nat := Nat.pow 10 18

def nativeUnits (n : Nat) : Nat :=
  n * weiPerNative

def fractionDigits (n : Nat) : List Char :=
  let digits := Nat.toDigits 10 n
  let padded := List.replicate (18 - digits.length) '0' ++ digits
  (padded.reverse.dropWhile (· == '0')).reverse

def Wei.native (w : Wei) : String :=
  let whole := Nat.toDigits 10 (w.toNat / weiPerNative)
  let rest := w.toNat % weiPerNative
  if rest = 0 then String.ofList whole
  else String.ofList (whole ++ '.' :: fractionDigits rest)

/-- Thousand millions of the smallest unit, rounded; amounts of more than 128 bits count as the
greatest of 128 bits. -/
def Wei.gwei (w : Wei) : Binary64 :=
  let capped := min w.toNat (Nat.pow 2 128 - 1)
  (Binary64.div? (.ofNat capped) (.ofNat (Nat.pow 10 9))).getD .zero

end MempoolGate
