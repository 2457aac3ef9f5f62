import MempoolGate.Text.Lowercase

namespace MempoolGate.Http.MediaType

def isToken (c : Char) : Bool :=
  ('a' ≤ c && c ≤ 'z') || ('A' ≤ c && c ≤ 'Z') || ('0' ≤ c && c ≤ '9') ||
    c ∈ "!#$%&'*+-.^_|~\x60".toList

def isQuotable (c : Char) : Bool :=
  0x1F < c.toNat && c.toNat < 0x7F

inductive Place
  | beforeName
  | name
  | beforeValue
  | value
  | quoted (filled : Bool)
  | afterQuote
deriving DecidableEq, Repr

def parametersFrom : Place → List Char → Bool
  | .beforeName, [] => true
  | .name, [] => false
  | .beforeValue, [] => true
  | .value, [] => true
  | .quoted _, [] => false
  | .afterQuote, [] => true
  | .beforeName, c :: rest =>
    if c = ' ' then parametersFrom .beforeName rest
    else isToken c && parametersFrom .name rest
  | .name, c :: rest =>
    if c = '=' then parametersFrom .beforeValue rest
    else isToken c && parametersFrom .name rest
  | .beforeValue, c :: rest =>
    if c = '"' then parametersFrom (.quoted false) rest
    else isToken c && parametersFrom .value rest
  | .value, c :: rest =>
    if c = ';' then parametersFrom .beforeName rest
    else isToken c && parametersFrom .value rest
  | .quoted filled, c :: rest =>
    if c = '"' ∧ filled then parametersFrom .afterQuote rest
    else isQuotable c && parametersFrom (.quoted true) rest
  | .afterQuote, c :: rest =>
    if c = ';' then parametersFrom .beforeName rest
    else c = ' ' && parametersFrom .afterQuote rest

/-- A name cut at its last plus sign that is not its first character. -/
def cutSuffix (cs : List Char) : List Char × Option (List Char) :=
  let after := (cs.reverse.takeWhile (· ≠ '+')).reverse
  let before := cs.take (cs.length - after.length - 1)
  if before = [] then (cs, none) else (before, some after)

/-- A well-formed media type of an application whose kind, or the suffix of its kind, is `json`. -/
def isJson (value : String) : Bool :=
  let cs := value.toList.map Text.asciiLower
  let top := cs.takeWhile isToken
  match cs.drop top.length with
  | '/' :: rest =>
    let sub := rest.takeWhile isToken
    let rest := rest.drop sub.length
    let wellFormed := match rest with
      | [] => true
      | ';' :: parameters => sub ≠ [] && parametersFrom .beforeName parameters
      | _ => false
    let (kind, suffix) := cutSuffix sub
    let json := "json".toList
    wellFormed && top = "application".toList && (kind = json || suffix = some json)
  | _ => false

end MempoolGate.Http.MediaType
