import MempoolGate.Text.Lowercase
import MempoolGate.Text.Percent

namespace MempoolGate.Http

/-- A body is text: bytes that are none, which a reader of JSON passes over in members that it ignores, are
left out. -/
structure Request where
  method : String
  path : String
  query : String
  headers : List (String × String)
  body : String
deriving DecidableEq, Repr

namespace Request

/-- What a target asks of this gateway: all behind the scheme and the authority, if it names them. -/
def localPart (target : List Char) : List Char :=
  let isSchemeChar (c : Char) : Bool := c.isAlphanum || c == '+' || c == '-' || c == '.'
  match target.dropWhile isSchemeChar with
  | ':' :: '/' :: '/' :: rest => rest.dropWhile fun c => c ≠ '/' ∧ c ≠ '?' ∧ c ≠ '#'
  | _ => target

def ofTarget (method target : String) (headers : List (String × String)) (body : String) :
    Request :=
  let beforeFragment := String.ofList ((localPart target.toList).takeWhile (· ≠ '#'))
  match Text.cutAt? '?' beforeFragment with
  | some (path, query) => ⟨method, path, query, headers, body⟩
  | none => ⟨method, beforeFragment, "", headers, body⟩

def values (r : Request) (name : String) : List String :=
  (r.headers.filter fun h => Text.equalsIgnoringCase h.1 name).map (·.2)

def isVisible (value : String) : Bool :=
  value.toList.all fun c => (0x20 ≤ c.toNat && c.toNat < 0x7F) || c = '\t'

def text? (r : Request) (name : String) : Option String :=
  (r.values name).head?.filter isVisible

/-- The last value of a name in the query. -/
def parameter? (r : Request) (name : String) : Option String :=
  ((Text.formPairs r.query).filter (·.1 = name)).getLast?.map (·.2)

/-- The presented key: a readable header goes before the query, blank or not. -/
def presentedKey (r : Request) : Option String :=
  (r.text? "x-api-key").or (r.parameter? "api_key")

end Request

end MempoolGate.Http
