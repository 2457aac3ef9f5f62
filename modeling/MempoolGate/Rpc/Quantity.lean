import MempoolGate.Chain.Wei
import MempoolGate.Error
import MempoolGate.Text.Quoted

namespace MempoolGate.Rpc

def notAQuantity (raw : String) : GatewayError :=
  .invalidResponse ("Not a hex quantity: " ++ Text.quoted raw)

/-- The digits of a number, which one plus sign may precede. -/
def unsignedHex? (digits : List Char) : Option Nat :=
  let digits := match digits with
    | '+' :: rest => rest
    | _ => digits
  if digits = [] then none else Text.digitsFrom? 16 Text.hexDigit? 0 digits

def quantityWord (raw : String) : Except GatewayError UInt64 :=
  match raw.toList with
  | '0' :: 'x' :: digits =>
    match (unsignedHex? digits).filter (· < UInt64.size) with
    | some n => .ok (UInt64.ofNat n)
    | none => .error (notAQuantity raw)
  | _ => .error (notAQuantity raw)

/-- A number of 256 bits: an integer literal with the marker and at least one character more. -/
def quantityWei (raw : String) : Except GatewayError Wei :=
  match raw.toList with
  | '0' :: 'x' :: _ :: _ =>
    match Wei.parse? raw with
    | some w => .ok w
    | none => .error (notAQuantity raw)
  | _ => .error (notAQuantity raw)

end MempoolGate.Rpc
