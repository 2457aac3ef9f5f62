import MempoolGate.Text.Hex

namespace MempoolGate.Json

inductive Plain
  | null
  | int (n : Int)
  | str (s : String)
  | list (items : List String)
deriving DecidableEq, Repr

def escapeChar (c : Char) : List Char :=
  if c = '"' then ['\\', '"']
  else if c = '\\' then ['\\', '\\']
  else if c = '\x08' then ['\\', 'b']
  else if c = '\x0c' then ['\\', 'f']
  else if c = '\n' then ['\\', 'n']
  else if c = '\r' then ['\\', 'r']
  else if c = '\t' then ['\\', 't']
  else if c.toNat < 0x20 then
    ['\\', 'u', '0', '0', Text.hexDigit (c.toNat / 16), Text.hexDigit (c.toNat % 16)]
  else [c]

def writeString (s : String) : List Char :=
  '"' :: s.toList.flatMap escapeChar ++ ['"']

def writeInt (n : Int) : List Char :=
  if n < 0 then '-' :: Nat.toDigits 10 n.natAbs else Nat.toDigits 10 n.natAbs

def Plain.write : Plain → List Char
  | .null => ['n', 'u', 'l', 'l']
  | .int n => writeInt n
  | .str s => writeString s
  | .list items => '[' :: [','].intercalate (items.map writeString) ++ [']']

def writeObject (members : List (String × Plain)) : List Char :=
  let parts := members.map fun (key, v) => writeString key ++ ':' :: v.write
  '\x7b' :: [','].intercalate parts ++ ['\x7d']

/-- What is written under a tag: members, which stand beside it in one object, or a value, which leaves
no place for it. -/
inductive Untagged
  | members (ms : List (String × Plain))
  | value (v : Plain)
deriving DecidableEq, Repr

def Plain.describe : Plain → String
  | .null => "an optional"
  | .int _ => "an integer"
  | .str _ => "a string"
  | .list _ => "a sequence"

def Untagged.write (typeName tag : String) : Untagged → Except String (List Char)
  | .members ms => .ok (writeObject (("type", .str tag) :: ms))
  | .value v =>
    .error ("cannot serialize tagged newtype variant " ++ typeName ++ " containing " ++ v.describe)

end MempoolGate.Json
