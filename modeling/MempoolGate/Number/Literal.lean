import MempoolGate.Text.Decimal

namespace MempoolGate.Literal

def limit : Nat := Nat.pow 2 256

def digit? (c : Char) : Option Nat :=
  if '0' ≤ c ∧ c ≤ '9' then some (c.toNat - '0'.toNat)
  else if 'a' ≤ c ∧ c ≤ 'z' then some (c.toNat - 'a'.toNat + 10)
  else if 'A' ≤ c ∧ c ≤ 'Z' then some (c.toNat - 'A'.toNat + 10)
  else none

def radixOf : List Char → Nat × List Char
  | '0' :: 'x' :: rest => (16, rest)
  | '0' :: 'X' :: rest => (16, rest)
  | '0' :: 'o' :: rest => (8, rest)
  | '0' :: 'O' :: rest => (8, rest)
  | '0' :: 'b' :: rest => (2, rest)
  | '0' :: 'B' :: rest => (2, rest)
  | cs => (10, cs)

def value? (s : String) : Option Nat :=
  let (radix, digits) := radixOf s.toList
  (Text.digitsFrom? radix digit? 0 (digits.filter (· ≠ '_'))).filter (· < limit)

end MempoolGate.Literal
