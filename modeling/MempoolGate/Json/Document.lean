import MempoolGate.Json.Numeral
import MempoolGate.Text.Hex

namespace MempoolGate.Json

mutual

/-- A value; a string with a lone surrogate escape has no text. -/
inductive Doc
  | broken
  | null
  | bool (b : Bool)
  | num (n : Numeral)
  | str (s : Option String)
  | arr (items : Items)
  | obj (members : Members)

inductive Items
  | done
  | broken
  | cons (head : Doc) (rest : Items)

inductive Members
  | done
  | broken
  | cons (key : Option String) (value : Doc) (rest : Members)

end

def isSpace (c : Char) : Bool :=
  c = ' ' || c = '\n' || c = '\t' || c = '\r'

def skipSpace (cs : List Char) : List Char :=
  cs.dropWhile isSpace

inductive Piece
  | char (c : Char)
  | unit (n : Nat)

def unitOf? (a b c d : Char) : Option Nat :=
  Text.digitsFrom? 16 Text.hexDigit? 0 [a, b, c, d]

def escaped? (c : Char) : Option Char :=
  if c = '"' then some '"'
  else if c = '\\' then some '\\'
  else if c = '/' then some '/'
  else if c = 'b' then some '\x08'
  else if c = 'f' then some '\x0c'
  else if c = 'n' then some '\n'
  else if c = 'r' then some '\r'
  else if c = 't' then some '\t'
  else none

def scanPieces? : List Char → Option (List Piece × List Char)
  | [] => none
  | '"' :: rest => some ([], rest)
  | '\\' :: 'u' :: a :: b :: c :: d :: rest => do
    let n ← unitOf? a b c d
    let (ps, after) ← scanPieces? rest
    return (.unit n :: ps, after)
  | '\\' :: c :: rest => do
    let e ← escaped? c
    let (ps, after) ← scanPieces? rest
    return (.char e :: ps, after)
  | c :: rest =>
    if c = '\\' ∨ c.toNat < 0x20 then none
    else do
      let (ps, after) ← scanPieces? rest
      return (.char c :: ps, after)

/-- The characters of the parts; a unit that is half a pair needs its other half right after it. -/
def joinPieces? : List Piece → Option (List Char)
  | [] => some []
  | .char c :: rest => (joinPieces? rest).map (c :: ·)
  | .unit high :: .unit low :: rest =>
    if 0xD800 ≤ high ∧ high < 0xDC00 ∧ 0xDC00 ≤ low ∧ low < 0xE000 then
      let n := 0x10000 + (high - 0xD800) * 0x400 + (low - 0xDC00)
      (joinPieces? rest).map (Char.ofNat n :: ·)
    else if 0xD800 ≤ high ∧ high < 0xE000 then none
    else (joinPieces? (.unit low :: rest)).map (Char.ofNat high :: ·)
  | .unit n :: rest =>
    if 0xD800 ≤ n ∧ n < 0xE000 then none else (joinPieces? rest).map (Char.ofNat n :: ·)

def scanString? (cs : List Char) : Option (Option String × List Char) :=
  (scanPieces? cs).map fun (ps, rest) => ((joinPieces? ps).map String.ofList, rest)

mutual

/-- The value at the head of a text, and the text after it if nothing in it is broken. -/
def scanValue : Nat → List Char → Doc × Option (List Char)
  | 0, _ => (.broken, none)
  | fuel + 1, cs =>
    match skipSpace cs with
    | '\x7b' :: rest =>
      match skipSpace rest with
      | '\x7d' :: after => (.obj .done, some after)
      | inner => let (ms, after) := scanMembers fuel inner; (.obj ms, after)
    | '[' :: rest =>
      match skipSpace rest with
      | ']' :: after => (.arr .done, some after)
      | inner => let (xs, after) := scanItems fuel inner; (.arr xs, after)
    | '"' :: rest =>
      match scanString? rest with
      | some (s, after) => (.str s, some after)
      | none => (.broken, none)
    | 't' :: 'r' :: 'u' :: 'e' :: rest => (.bool true, some rest)
    | 'f' :: 'a' :: 'l' :: 's' :: 'e' :: rest => (.bool false, some rest)
    | 'n' :: 'u' :: 'l' :: 'l' :: rest => (.null, some rest)
    | cs =>
      match scanNumeral? cs with
      | some (n, rest) => (.num n, some rest)
      | none => (.broken, none)

def scanItems : Nat → List Char → Items × Option (List Char)
  | 0, _ => (.broken, none)
  | fuel + 1, cs =>
    match scanValue fuel cs with
    | (head, none) => (.cons head .broken, none)
    | (head, some rest) =>
      match skipSpace rest with
      | ',' :: more => let (xs, after) := scanItems fuel more; (.cons head xs, after)
      | ']' :: after => (.cons head .done, some after)
      | _ => (.cons head .broken, none)

def scanMembers : Nat → List Char → Members × Option (List Char)
  | 0, _ => (.broken, none)
  | fuel + 1, cs =>
    match skipSpace cs with
    | '"' :: rest =>
      match scanString? rest with
      | none => (.broken, none)
      | some (key, rest) =>
        match skipSpace rest with
        | ':' :: rest =>
          match scanValue fuel rest with
          | (value, none) => (.cons key value .broken, none)
          | (value, some rest) =>
            match skipSpace rest with
            | ',' :: more => let (ms, after) := scanMembers fuel more; (.cons key value ms, after)
            | '\x7d' :: after => (.cons key value .done, some after)
            | _ => (.cons key value .broken, none)
        | _ => (.cons key .broken .broken, none)
    | _ => (.broken, none)

end

def Doc.first (s : String) : Doc :=
  let cs := s.toList
  (scanValue (2 * cs.length + 1) cs).1

def Doc.only (s : String) : Doc :=
  let cs := s.toList
  match scanValue (2 * cs.length + 1) cs with
  | (d, some rest) => if skipSpace rest = [] then d else .broken
  | (_, none) => .broken

end MempoolGate.Json
