import MempoolGate.Chain.Bytes
import MempoolGate.Chain.Wei
import MempoolGate.Json.Value
import MempoolGate.Uuid

namespace MempoolGate.Json

abbrev Reader (α : Type) := Doc → Except Fault α

/-- The fault of a value of another kind than the one wanted: the value itself is read first. -/
def Doc.mismatch : Doc → Fault
  | .broken => .malformed
  | .str none => .malformed
  | .num n => if n.value?.isSome then .unfit else .malformed
  | _ => .unfit

namespace Reader

variable {α β : Type}

def text : Reader String
  | .str (some s) => .ok s
  | d => .error d.mismatch

def textBy (f : String → Option α) : Reader α
  | .str (some s) => match f s with
    | some a => .ok a
    | none => .error .unfit
  | d => .error d.mismatch

def integerBy (f : Int → Option α) : Reader α
  | .num n => match n.value? with
    | some (.whole i) => match f i with
      | some a => .ok a
      | none => .error .unfit
    | some (.real _) => .error .unfit
    | none => .error .malformed
  | d => .error d.mismatch

def word : Reader UInt64 :=
  integerBy fun i => if 0 ≤ i ∧ i.toNat < UInt64.size then some (UInt64.ofNat i.toNat) else none

def signed : Reader Int64 :=
  integerBy fun i =>
    if -0x8000000000000000 ≤ i ∧ i < 0x8000000000000000 then some (Int64.ofInt i) else none

def byte : Reader UInt8 :=
  integerBy fun i => if 0 ≤ i ∧ i.toNat < UInt8.size then some (UInt8.ofNat i.toNat) else none

def real : Reader Binary64
  | .num n => match n.value? with
    | some x => .ok x.toReal
    | none => .error .malformed
  | d => .error d.mismatch

def nullable (r : Reader α) : Reader (Option α)
  | .null => .ok none
  | d => (r d).map some

end Reader

def Items.read {α : Type} (r : Reader α) : Items → Except Fault (List α)
  | .done => .ok []
  | .broken => .error .malformed
  | .cons head rest => do return (← r head) :: (← rest.read r)

namespace Reader

def list {α : Type} (r : Reader α) : Reader (List α)
  | .arr items => items.read r
  | d => .error d.mismatch

def bytes : Reader (List UInt8)
  | .arr items => items.read byte
  | d => textBy Text.hexBytes? d

def fixedBytes (n : Nat) : Reader (FixedBytes n) := fun d => do
  match FixedBytes.ofBytes? n (← bytes d) with
  | some x => return x
  | none => throw .unfit

def uuid : Reader Uuid := textBy Uuid.parse?

def wei : Reader Wei
  | .num n =>
    integerBy (fun i => if 0 ≤ i ∧ i.toNat < UInt64.size then Wei.ofNat? i.toNat else none) (.num n)
  | d => textBy Wei.parse? d

def any : Reader Value := Doc.value (maxDepth - 1)

end Reader

/-- What is asked of one field: `mayTrail` says that an array may end before it. -/
structure FieldRule where
  name : String
  check : Doc → Option Fault
  mayTrail : Bool

abbrev Row := List (String × Doc)

/-- The fields of a record in the order of their declaration, and the record they make. -/
structure Fields (α : Type) where
  rules : List FieldRule
  build : Row → Except Fault α

namespace Fields

variable {α β : Type}

def faultOf (r : Reader α) (d : Doc) : Option Fault :=
  match r d with
  | .ok _ => none
  | .error e => some e

def one (name : String) (r : Reader α) (mayTrail : Bool) (absent : Except Fault α) : Fields α :=
  ⟨[⟨name, faultOf r, mayTrail⟩], fun row =>
    match row.lookup name with
    | some d => r d
    | none => absent⟩

def required (name : String) (r : Reader α) : Fields α :=
  one name r false (.error .unfit)

def nullable (name : String) (r : Reader α) : Fields (Option α) :=
  one name r.nullable false (.ok none)

def defaulted (name : String) (r : Reader α) (a : α) : Fields α :=
  one name r true (.ok a)

def optional (name : String) (r : Reader α) : Fields (Option α) :=
  defaulted name r.nullable none

instance : Applicative Fields where
  pure a := ⟨[], fun _ => .ok a⟩
  seq f x := ⟨f.rules ++ (x ()).rules, fun row => do
    let g ← f.build row
    let a ← (x ()).build row
    return g a⟩

def rowOfMembers (rules : List FieldRule) (seen : List String) : Members → Except Fault Row
  | .done => .ok []
  | .broken => .error .malformed
  | .cons none _ _ => .error .malformed
  | .cons (some key) value rest =>
    match rules.find? (·.name = key) with
    | none => if value.isWhole then rowOfMembers rules seen rest else .error .malformed
    | some rule =>
      if key ∈ seen then .error .unfit
      else match rule.check value with
        | some fault => .error fault
        | none => (rowOfMembers rules (key :: seen) rest).map ((key, value) :: ·)

def rowOfItems : List FieldRule → Items → Except Fault Row
  | [], .done => .ok []
  | [], _ => .error .malformed
  | _ :: _, .broken => .error .malformed
  | rule :: rules, .done => if rule.mayTrail then rowOfItems rules .done else .error .unfit
  | rule :: rules, .cons head rest =>
    match rule.check head with
    | some fault => .error fault
    | none => (rowOfItems rules rest).map ((rule.name, head) :: ·)

def readMembers (fields : Fields α) (members : Members) : Except Fault α := do
  fields.build (← rowOfMembers fields.rules [] members)

def readItems (fields : Fields α) (items : Items) : Except Fault α := do
  fields.build (← rowOfItems fields.rules items)

def read (fields : Fields α) : Reader α
  | .obj members => fields.readMembers members
  | .arr items => fields.readItems items
  | d => .error d.mismatch

end Fields

inductive Tagged
  | members (rest : Members)
  | items (rest : Items)

def Members.extract (key : String) : Members → List Doc × Members
  | .done => ([], .done)
  | .broken => ([], .broken)
  | .cons k value rest =>
    let (found, others) := rest.extract key
    if k = some key then (value :: found, others) else (found, .cons k value others)

/-- The kind of a record and the rest of it. The whole text must be sound first. The kind is a string
under the key `type`, which stands there once, or the first item of an array. -/
def Doc.tagged (d : Doc) : Except Fault (String × Tagged) := do
  let _ ← d.value maxDepth
  match d with
  | .obj members =>
    match members.extract "type" with
    | ([.str (some tag)], rest) => return (tag, .members rest)
    | _ => throw .unfit
  | .arr (.cons (.str (some tag)) rest) => return (tag, .items rest)
  | _ => throw .unfit

def Fields.readTagged {α : Type} (fields : Fields α) : Tagged → Except Fault α
  | .members rest => fields.readMembers rest
  | .items rest => fields.readItems rest

end MempoolGate.Json
