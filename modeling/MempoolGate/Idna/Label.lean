import MempoolGate.Idna.LabelTable
import MempoolGate.Idna.Mapping
import MempoolGate.Idna.Punycode
import MempoolGate.Text.NormalForm

namespace MempoolGate.Idna

def marks : List (Nat × Nat) := Text.readRuns LabelTable.marks

inductive Direction
  | left
  | right
  | european
  | arabic
  | neutral
  | attached
deriving DecidableEq, Repr

def directions : List (List (Nat × Nat) × Direction) :=
  [(Text.readRuns LabelTable.right, .right), (Text.readRuns LabelTable.european, .european),
   (Text.readRuns LabelTable.arabic, .arabic), (Text.readRuns LabelTable.neutral, .neutral),
   (Text.readRuns LabelTable.attached, .attached)]

def direction (c : Char) : Direction :=
  ((directions.find? fun e => Text.inRanges e.1 c).map (·.2)).getD .left

def turns (cs : List Char) : Bool :=
  cs.any fun c => direction c == .right || direction c == .arabic

/-- A label beside one that turns begins with a letter and keeps to its direction: its last character,
marks apart, is a letter of that direction or a digit, and digits of both kinds do not mix. -/
def keepsDirection (label : List Char) : Bool :=
  match label.map direction with
  | [] => true
  | first :: rest =>
    let core := (rest.reverse.dropWhile (· == .attached)).reverse
    let last := core.getLastD first
    match first with
    | .left =>
      core.all (fun d => d != .right && d != .arabic) && (last == .left || last == .european)
    | .right =>
      core.all (· != .left) && (last == .right || last == .european || last == .arabic) &&
        !(core.contains .european && core.contains .arabic)
    | _ => false

def dual : List (Nat × Nat) := Text.readRuns LabelTable.dual

def rightJoining : List (Nat × Nat) := Text.readRuns LabelTable.rightJoining

def leftJoining : List (Nat × Nat) := Text.readRuns LabelTable.leftJoining

def transparent : List (Nat × Nat) := Text.readRuns LabelTable.transparent

/-- The nearest letter, characters that letters join across passed over, joins on the side that a
table or the table of letters joining on both sides is about. -/
def joinsOn (table : List (Nat × Nat)) (cs : List Char) : Bool :=
  match cs.dropWhile (Text.inRanges transparent) with
  | c :: _ => Text.inRanges table c || Text.inRanges dual c
  | [] => false

def viramaClass : Nat := 9

/-- A joiner stands behind a sign that takes the vowel from a letter; one that keeps letters apart may
also stand between two that would join. `before` is held in reverse. -/
def joinersFit (before : List Char) : List Char → Bool
  | [] => true
  | c :: rest =>
    let isFit :=
      if c = '\u200C' ∨ c = '\u200D' then
        (before.head?.map Text.markClass == some viramaClass) ||
          (c == '\u200C' && joinsOn leftJoining before && joinsOn rightJoining rest)
      else true
    isFit && joinersFit (c :: before) rest

/-- Stands before a label that is written in ASCII and means something else. -/
def marker : List Char := ['x', 'n', '-', '-']

/-- A text may be a label: its characters stand for themselves and are composed, none lacks the
character it needs before it, and it is not mistaken for one with a marker. -/
def isLabel (label : List Char) : Bool :=
  label.all isKept && Text.composed label == label && !label.head?.any (Text.inRanges marks) &&
    joinersFit [] label && !marker.isPrefixOf label

def isAscii (cs : List Char) : Bool :=
  cs.all (·.toNat < 0x80)

def longestRead : Nat := 2000

def longestWritten : Nat := 1000

structure Label where
  meaning : List Char
  written : List Char

def Label.read? (cs : List Char) : Option Label :=
  if marker.isPrefixOf cs then
    let code := cs.drop marker.length
    if !isAscii cs || longestRead < code.length then none
    else
      ((Punycode.decode? code).filter fun label => !isAscii label && isLabel label).map (⟨·, cs⟩)
  else if !isLabel cs then none
  else if isAscii cs then some ⟨cs, cs⟩
  else if longestWritten < cs.length then none
  else some ⟨cs, marker ++ Punycode.encode cs⟩

end MempoolGate.Idna
