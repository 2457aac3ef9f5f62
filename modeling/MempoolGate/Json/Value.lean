import MempoolGate.Json.Document

namespace MempoolGate.Json

inductive Fault
  | malformed
  | unfit
deriving DecidableEq, Repr

inductive Value
  | null
  | bool (b : Bool)
  | num (n : Number)
  | str (s : String)
  | arr (items : List Value)
  | obj (members : List (String × Value))
deriving Repr

/-- A member in front of others; of two with the same key the later one stays. -/
def consMember (key : String) (v : Value) (rest : List (String × Value)) : List (String × Value) :=
  if rest.any fun m => m.1 = key then rest else (key, v) :: rest

mutual

/-- The value of a tree with at most `depth` arrays and objects inside one another. -/
def Doc.value (depth : Nat) : Doc → Except Fault Value
  | .broken => .error .malformed
  | .null => .ok .null
  | .bool b => .ok (.bool b)
  | .num n => match n.value? with
    | some x => .ok (.num x)
    | none => .error .malformed
  | .str (some s) => .ok (.str s)
  | .str none => .error .malformed
  | .arr items => if depth = 0 then .error .malformed else (items.values (depth - 1)).map .arr
  | .obj members => if depth = 0 then .error .malformed else (members.values (depth - 1)).map .obj

def Items.values (depth : Nat) : Items → Except Fault (List Value)
  | .done => .ok []
  | .broken => .error .malformed
  | .cons head rest => do return (← head.value depth) :: (← rest.values depth)

def Members.values (depth : Nat) : Members → Except Fault (List (String × Value))
  | .done => .ok []
  | .broken => .error .malformed
  | .cons none _ _ => .error .malformed
  | .cons (some key) value rest => do
    return consMember key (← value.value depth) (← rest.values depth)

end

mutual

def Doc.isWhole : Doc → Bool
  | .broken => false
  | .arr items => items.isWhole
  | .obj members => members.isWhole
  | _ => true

def Items.isWhole : Items → Bool
  | .done => true
  | .broken => false
  | .cons head rest => head.isWhole && rest.isWhole

def Members.isWhole : Members → Bool
  | .done => true
  | .broken => false
  | .cons _ value rest => value.isWhole && rest.isWhole

end

def maxDepth : Nat := 127

end MempoolGate.Json
