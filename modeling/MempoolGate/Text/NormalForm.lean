import MempoolGate.Text.CharTable
import MempoolGate.Text.NormalTable

namespace MempoolGate.Text

def readClass (word : String) : (Nat × Nat) × Nat :=
  let (run, cls) := cutAround ':' word.toList
  (readRun run, hexValue cls)

def markClasses : List ((Nat × Nat) × Nat) :=
  (words NormalTable.classes).map readClass

def markClass (c : Char) : Nat :=
  ((markClasses.find? fun e => e.1.1 ≤ c.toNat && c.toNat ≤ e.1.2).map (·.2)).getD 0

structure Composite where
  whole : Char
  first : Char
  second : Char

def Composite.read (word : String) : Composite :=
  let (whole, parts) := cutAround '=' word.toList
  let (first, second) := cutAround '+' parts
  ⟨hexChar whole, hexChar first, hexChar second⟩

def composites : List Composite :=
  (words NormalTable.composites).map Composite.read

/-- Korean syllables are numbered by their letters: nineteen first ones, twenty-one vowels, and
twenty-seven last ones or none. -/
def syllableBase : Nat := 0xAC00

def syllables : Nat := 19 * 21 * 28

def parts? (c : Char) : Option (Char × Char) :=
  let n := c.toNat - syllableBase
  if syllableBase ≤ c.toNat ∧ n < syllables then
    if n % 28 = 0 then some (Char.ofNat (0x1100 + n / 588), Char.ofNat (0x1161 + n % 588 / 28))
    else some (Char.ofNat (c.toNat - n % 28), Char.ofNat (0x11A7 + n % 28))
  else (composites.find? (·.whole = c)).map fun e => (e.first, e.second)

def join? (a b : Char) : Option Char :=
  let first := a.toNat - 0x1100
  let vowel := b.toNat - 0x1161
  let syllable := a.toNat - syllableBase
  let last := b.toNat - 0x11A7
  if 0x1100 ≤ a.toNat ∧ first < 19 ∧ 0x1161 ≤ b.toNat ∧ vowel < 21 then
    some (Char.ofNat (syllableBase + (first * 21 + vowel) * 28))
  else if syllableBase ≤ a.toNat ∧ syllable < syllables ∧ syllable % 28 = 0 ∧
      0x11A7 < b.toNat ∧ last < 28 then
    some (Char.ofNat (a.toNat + last))
  else (composites.find? fun e => e.first = a ∧ e.second = b).map (·.whole)

def partsWithin : Nat → Char → List Char
  | 0, c => [c]
  | depth + 1, c =>
    match parts? c with
    | some (first, second) => partsWithin depth first ++ [second]
    | none => [c]

def allParts (c : Char) : List Char :=
  partsWithin 3 c

def placeMark (c : Char) : List Char → List Char
  | [] => [c]
  | d :: rest =>
    if markClass d ≠ 0 ∧ markClass d < markClass c then d :: placeMark c rest else c :: d :: rest

def sortMarks (cs : List Char) : List Char :=
  cs.foldr placeMark []

/-- The rest of a text behind a letter and the marks, in reverse, that could not join it. A character
joins the letter if nothing of its class or a higher one stands between. -/
def joinAfter (letter : Char) (apart : List Char) : List Char → List Char
  | [] => letter :: apart.reverse
  | c :: rest =>
    let isFree := apart.head?.all fun m => markClass m < markClass c
    match if isFree then join? letter c else none with
    | some whole => joinAfter whole apart rest
    | none =>
      if markClass c = 0 then letter :: apart.reverse ++ joinAfter c [] rest
      else joinAfter letter (c :: apart) rest

def composed (cs : List Char) : List Char :=
  match sortMarks (cs.flatMap allParts) with
  | [] => []
  | c :: rest => joinAfter c [] rest

end MempoolGate.Text
