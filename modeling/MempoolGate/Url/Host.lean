import MempoolGate.Idna.Domain
import MempoolGate.Text.Percent
import MempoolGate.Url.Escape
import MempoolGate.Url.Fault
import MempoolGate.Url.Ipv4
import MempoolGate.Url.Ipv6

namespace MempoolGate.Url

inductive Host
  | empty
  | named (name : String)
  | ipv4 (address : Nat)
  | ipv6 (pieces : List Nat)
deriving DecidableEq, Repr

namespace Host

def text : Host → String
  | empty => ""
  | named name => name
  | ipv4 address => Ipv4.text address
  | ipv6 pieces => "[" ++ Ipv6.text pieces ++ "]"

def bracketed (cs : List Char) : Except Fault Host :=
  if cs.getLast? = some ']' then
    match Ipv6.read? (cs.drop 1).dropLast with
    | some pieces => .ok (.ipv6 pieces)
    | none => .error .badIpv6
  else .error .badIpv6

def ofName (cs : List Char) : Except Fault Host :=
  if cs.head? = some '[' then bracketed cs
  else
    match (Text.percentDecode? (String.ofList cs)).bind Idna.toAscii? with
    | none => .error .badDomain
    | some name =>
      if name = "" then .error .emptyHost
      else if Ipv4.endsInNumber name.toList then
        match Ipv4.read? name.toList with
        | some address => .ok (.ipv4 address)
        | none => .error .badIpv4
      else .ok (.named name)

def isForbidden (c : Char) : Bool :=
  "\x00\t\n\r #/:<>?@[\\]^|".toList.contains c

def ofText (cs : List Char) : Except Fault Host :=
  if cs.head? = some '[' then bracketed cs
  else if cs.any isForbidden then .error .badHostCharacter
  else if cs = [] then .ok .empty
  else .ok (.named (String.ofList (escape isControl cs)))

/-- The characters up to the colon before a port; a colon in brackets is none. -/
def extent (inBrackets : Bool) : List Char → List Char
  | [] => []
  | c :: rest =>
    if c = ':' ∧ !inBrackets then []
    else c :: extent (c = '[' || (inBrackets && c ≠ ']')) rest

end Host

end MempoolGate.Url
