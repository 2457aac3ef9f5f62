namespace MempoolGate

/-- Pairs of a key and its value; the first pair of a key counts. -/
structure Table (κ α : Type) where
  entries : List (κ × α) := []
deriving Repr

namespace Table

variable {κ α : Type} [DecidableEq κ]

/-- The value in place of the old one, or as a new last pair. -/
def putIn (k : κ) (a : α) : List (κ × α) → List (κ × α)
  | [] => [(k, a)]
  | (k', a') :: rest => if k' = k then (k, a) :: rest else (k', a') :: putIn k a rest

def get? (t : Table κ α) (k : κ) : Option α :=
  (t.entries.find? fun p => decide (p.1 = k)).map (·.2)

def put (t : Table κ α) (k : κ) (a : α) : Table κ α :=
  ⟨putIn k a t.entries⟩

def erase (t : Table κ α) (k : κ) : Table κ α :=
  ⟨t.entries.filter fun p => decide (p.1 ≠ k)⟩

def modify (t : Table κ α) (k : κ) (f : α → α) : Table κ α :=
  match t.get? k with
  | some a => t.put k (f a)
  | none => t

def contains (t : Table κ α) (k : κ) : Bool :=
  (t.get? k).isSome

omit [DecidableEq κ] in
def size (t : Table κ α) : Nat :=
  t.entries.length

def values (t : Table κ α) : List α :=
  t.entries.map (·.2)

end Table

end MempoolGate
