import MempoolGate.Url.Escape

namespace MempoolGate.Url.Path

def isLetter (c : Char) : Bool := ('a' ≤ c && c ≤ 'z') || ('A' ≤ c && c ≤ 'Z')

def dots? : List Char → Option Nat
  | [] => some 0
  | '.' :: rest => (dots? rest).map (· + 1)
  | '%' :: '2' :: c :: rest => if c = 'e' ∨ c = 'E' then (dots? rest).map (· + 1) else none
  | _ => none

/-- A letter that names a drive, which nothing goes up from. -/
def isDrive : List Char → Bool
  | [letter, mark] => isLetter letter && (mark == ':' || mark == '|')
  | _ => false

/-- The segments so far, the last one first, after one more with a slash behind it. -/
def enter (done : List (List Char)) (segment : List Char) : List (List Char) :=
  match dots? segment, done with
  | some 1, _ => done
  | some 2, [] => []
  | some 2, last :: before => if isDrive last then done else before
  | _, _ => segment :: done

/-- All segments without those that stand for others. A path that ends in dots ends in a slash. -/
def resolve (done : List (List Char)) : List (List Char) → List (List Char)
  | [] => done.reverse
  | [last] =>
    match dots? last with
    | some 1 | some 2 => ([] :: enter done last).reverse
    | _ => (last :: done).reverse
  | segment :: rest => resolve (enter done segment) rest

def text (segments : List (List Char)) : String :=
  String.ofList (segments.flatMap fun segment => '/' :: escape escapedInPath segment)

def segments (isSlash : Char → Bool) (cs : List Char) : List (List Char) :=
  resolve [] (cs.splitOnP isSlash)

end MempoolGate.Url.Path
