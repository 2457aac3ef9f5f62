import MempoolGate.Text.Lowercase

namespace MempoolGate.Idna.Punycode

def digit (value : Nat) : Char :=
  if value < 26 then Char.ofNat (0x61 + value) else Char.ofNat (0x30 + (value - 26))

def digitValue? (c : Char) : Option Nat :=
  let c := Text.asciiLower c
  if 'a' ≤ c ∧ c ≤ 'z' then some (c.toNat - 0x61)
  else if '0' ≤ c ∧ c ≤ '9' then some (c.toNat - 0x30 + 26)
  else none

def threshold (place bias : Nat) : Nat :=
  if place ≤ bias then 1 else min 26 (place - bias)

theorem one_le_threshold (place bias : Nat) : 1 ≤ threshold place bias := by
  unfold threshold
  split <;> omega

/-- How often a number can be cut down to a small one, in steps of thirty-six, and what is left. -/
def cutDown (steps n : Nat) : Nat × Nat :=
  if 455 < n then cutDown (steps + 36) (n / 35) else (steps, n)
termination_by n
decreasing_by omega

def adapt (isFirst : Bool) (n length : Nat) : Nat :=
  let n := if isFirst then n / 700 else n / 2
  let (steps, rest) := cutDown 0 (n + n / length)
  steps + 36 * rest / (rest + 38)

def digits (bias place n : Nat) : List Char :=
  let t := threshold place bias
  if n < t then [digit n]
  else digit (t + (n - t) % (36 - t)) :: digits bias (place + 36) ((n - t) / (36 - t))
termination_by n
decreasing_by
  have h := one_le_threshold place bias
  exact Nat.lt_of_le_of_lt (Nat.div_le_self _ _) (by omega)

structure Progress where
  written : List Char
  handled : Nat
  distance : Nat
  bias : Nat

/-- One character of the label, while all characters below `target` are written. -/
def Progress.visit (basic target : Nat) (p : Progress) (c : Char) : Progress :=
  if c.toNat < target then { p with distance := p.distance + 1 }
  else if c.toNat = target then
    { written := p.written ++ digits p.bias 36 p.distance
      handled := p.handled + 1
      distance := 0
      bias := adapt (p.handled == basic) p.distance (p.handled + 1) }
  else p

def Progress.write (label : List Char) (basic : Nat) : List Nat → Nat → Progress → Progress
  | [], _, p => p
  | target :: rest, next, p =>
    let p := { p with distance := p.distance + (target - next) * (p.handled + 1) }
    let p := label.foldl (Progress.visit basic target) p
    Progress.write label basic rest (target + 1) { p with distance := p.distance + 1 }

def encode (label : List Char) : List Char :=
  let basic := label.filter (·.toNat < 0x80)
  let others := ((label.filter (0x80 ≤ ·.toNat)).map Char.toNat).mergeSort.eraseDups
  let start : Progress := ⟨basic ++ (if basic = [] then [] else ['-']), basic.length, 0, 72⟩
  (start.write label basic.length others 0x80).written

/-- The first number of a text, its digits counted from a place and with a weight, and what is left
of the text. Numbers have at most 32 bits. -/
def number? (bias place weight : Nat) : List Char → Option (Nat × List Char)
  | [] => none
  | c :: rest =>
    match digitValue? c with
    | none => none
    | some d =>
      let t := threshold place bias
      if UInt32.size ≤ d * weight then none
      else if d < t then some (d * weight, rest)
      else if UInt32.size ≤ weight * (36 - t) then none
      else (number? bias (place + 36) (weight * (36 - t)) rest).map fun (n, rest) =>
        (d * weight + n, rest)

theorem number?_length {bias place weight n : Nat} {cs rest : List Char}
    (h : number? bias place weight cs = some (n, rest)) : rest.length < cs.length := by
  induction cs generalizing place weight n with
  | nil => simp [number?] at h
  | cons c cs ih =>
    simp only [number?] at h
    split at h
    · cases h
    · split at h
      · cases h
      · split at h
        · obtain ⟨-, rfl⟩ := by simpa using h
          simp
        · split at h
          · cases h
          · obtain ⟨⟨m, r⟩, hr, he⟩ := Option.map_eq_some_iff.1 h
            obtain ⟨-, rfl⟩ := by simpa using he
            exact Nat.lt_succ_of_lt (ih hr)

/-- The label with the rest of its characters put in: the next one has at least the number `next` and
stands at least at `place`. -/
def insertAll (bias next place : Nat) (label cs : List Char) : Option (List Char) :=
  if cs = [] then some label
  else
    match h : number? bias 36 1 cs with
    | none => none
    | some (n, rest) =>
      let length := label.length + 1
      let next := next + (place + n) / length
      let here := (place + n) % length
      if place + n < UInt32.size ∧ next.isValidChar then
        insertAll (adapt (place == 0) n length) next (here + 1)
          (label.insertIdx here (Char.ofNat next)) rest
      else none
termination_by cs.length
decreasing_by exact number?_length h

def decode? (cs : List Char) : Option (List Char) :=
  let others := (cs.reverse.takeWhile (· ≠ '-')).reverse
  match cs.take (cs.length - others.length - 1) with
  | [] => insertAll 72 0x80 0 [] cs
  | basic => insertAll 72 0x80 0 basic others

end MempoolGate.Idna.Punycode
