import MempoolGate.Number.Binary64
import MempoolGate.Text.Decimal

namespace MempoolGate.Json

structure Numeral where
  negative : Bool
  whole : List Nat
  fraction : Option (List Nat)
  exponent : Option (Bool × List Nat)
deriving DecidableEq, Repr

inductive Number
  | whole (n : Int)
  | real (x : Binary64)
deriving DecidableEq, Repr

def takeDigits : List Char → List Nat × List Char
  | [] => ([], [])
  | c :: rest =>
    match Text.decimalDigit? c with
    | some d => let (ds, after) := takeDigits rest; (d :: ds, after)
    | none => ([], c :: rest)

def takeWhole? (cs : List Char) : Option (List Nat × List Char) :=
  match takeDigits cs with
  | ([], _) => none
  | (0 :: _ :: _, _) => none
  | (ds, rest) => some (ds, rest)

def takeFraction? : List Char → Option (Option (List Nat) × List Char)
  | '.' :: rest =>
    match takeDigits rest with
    | ([], _) => none
    | (ds, after) => some (some ds, after)
  | cs => some (none, cs)

def takePower? (cs : List Char) : Option (Option (Bool × List Nat) × List Char) :=
  let (negative, digits) := match cs with
    | '+' :: rest => (false, rest)
    | '-' :: rest => (true, rest)
    | _ => (false, cs)
  match takeDigits digits with
  | ([], _) => none
  | (ds, after) => some (some (negative, ds), after)

def takeExponent? : List Char → Option (Option (Bool × List Nat) × List Char)
  | 'e' :: rest => takePower? rest
  | 'E' :: rest => takePower? rest
  | cs => some (none, cs)

def scanNumeral? (cs : List Char) : Option (Numeral × List Char) := do
  let (negative, digits) := match cs with
    | '-' :: rest => (true, rest)
    | _ => (false, cs)
  let (whole, rest) ← takeWhole? digits
  let (fraction, rest) ← takeFraction? rest
  let (exponent, rest) ← takeExponent? rest
  return (⟨negative, whole, fraction, exponent⟩, rest)

/-- Digits are appended to `m` while the result fits into 64 bits; what is left is given back. -/
def fillWord (m : Nat) : List Nat → Nat × List Nat
  | [] => (m, [])
  | d :: ds => if 10 * m + d < UInt64.size then fillWord (10 * m + d) ds else (m, d :: ds)

def digitsValue (ds : List Nat) : Nat :=
  ds.foldl (fun n d => 10 * n + d) 0

/-- `x` times a power of ten; `none` when that is too great. Of the greatest power that is a finite
number, two divisions leave nothing of a number of 64 bits, so `steps` is three. -/
def scaleBy? (x : Binary64) (power : Int) : Nat → Option Binary64
  | 0 => some .zero
  | steps + 1 =>
    if power.natAbs ≤ 308 then
      if 0 ≤ power then x.mul? (.powTen power.natAbs) else x.div? (.powTen power.natAbs)
    else if x = .zero then some x
    else if 0 ≤ power then none
    else (x.div? (.powTen 308)).bind fun y => scaleBy? y (power + 308) steps

def maxPower : Nat := 0x7FFFFFFF

namespace Numeral

def magnitude? (n : Numeral) : Option Binary64 :=
  let (m, dropped) := fillWord 0 n.whole
  let fraction := n.fraction.getD []
  let (m, unused) := fillWord m fraction
  let power : Int := dropped.length - (fraction.length - unused.length : Nat)
  match n.exponent with
  | none => scaleBy? (.ofNat m) power 3
  | some (negative, ds) =>
    let e := digitsValue ds
    if maxPower < e then
      if m = 0 ∨ negative then some .zero else none
    else scaleBy? (.ofNat m) (if negative then power - e else power + e) 3

def value? (n : Numeral) : Option Number :=
  let (m, dropped) := fillWord 0 n.whole
  if n.fraction = none ∧ n.exponent = none ∧ dropped = [] ∧
      (!n.negative ∨ (0 < m ∧ m ≤ 0x8000000000000000)) then
    some (.whole (if n.negative then -m else m))
  else
    n.magnitude?.map fun x => .real (if n.negative then x.neg else x)

end Numeral

def Number.toReal : Number → Binary64
  | .real x => x
  | .whole n => if n < 0 then (Binary64.ofNat n.natAbs).neg else .ofNat n.natAbs

end MempoolGate.Json
