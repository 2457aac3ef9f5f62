namespace MempoolGate.Text

def decimal (n : Nat) : String :=
  String.ofList (Nat.toDigits 10 n)

def integer (n : Int) : String :=
  if n < 0 then "-" ++ decimal n.natAbs else decimal n.natAbs

def decimalDigit? (c : Char) : Option Nat :=
  if '0' ≤ c ∧ c ≤ '9' then some (c.toNat - '0'.toNat) else none

/-- The number that a row of digits of the given radix stands for, read on from `start`. -/
def digitsFrom? (radix : Nat) (digit? : Char → Option Nat) (start : Nat) : List Char → Option Nat
  | [] => some start
  | c :: rest =>
    match digit? c with
    | some d => if d < radix then digitsFrom? radix digit? (radix * start + d) rest else none
    | none => none

def unsigned? (bound : Nat) (s : String) : Option Nat :=
  let digits := match s.toList with
    | '+' :: rest => rest
    | cs => cs
  if digits = [] then none
  else (digitsFrom? 10 decimalDigit? 0 digits).filter (· ≤ bound)

end MempoolGate.Text
