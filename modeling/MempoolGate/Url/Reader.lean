import MempoolGate.Text.Lowercase
import MempoolGate.Url.Basic
import MempoolGate.Url.Path

namespace MempoolGate.Url

def isSchemeChar (c : Char) : Bool :=
  Path.isLetter c || ('0' ≤ c && c ≤ '9') || c == '+' || c == '-' || c == '.'

/-- Controls and blanks around an address do not count, nor do line breaks and tabs inside it. -/
def clean (s : String) : List Char :=
  let isEdge (c : Char) : Bool := c.toNat ≤ 0x20
  ((s.toList.dropWhile isEdge).reverse.dropWhile isEdge).reverse.filter fun c =>
    c ≠ '\n' ∧ c ≠ '\r' ∧ c ≠ '\t'

def scheme? (cs : List Char) : Option (String × List Char) :=
  let name := cs.takeWhile isSchemeChar
  match name, cs.dropWhile isSchemeChar with
  | first :: _, ':' :: rest =>
    if Path.isLetter first then some (String.ofList (name.map Text.asciiLower), rest) else none
  | _, _ => none

def isSlash (c : Char) : Bool := c == '/' || c == '\\'

def hosted : List (String × Nat) :=
  [("http", 80), ("https", 443), ("ws", 80), ("wss", 443), ("ftp", 21)]

def endsAuthority (isHosted : Bool) (c : Char) : Bool :=
  c == '/' || c == '?' || c == '#' || (isHosted && c == '\\')

def port? (usual : Option Nat) (digits : List Char) : Except Fault (Option Nat) :=
  match (Text.digitsFrom? 10 Text.decimalDigit? 0 digits).filter (· ≤ 65535) with
  | none => .error .badPort
  | some port => .ok (if digits = [] ∨ some port = usual then none else some port)

/-- The authority of a scheme with a usual port, or of one that need not name a host, and what is left
for the path. -/
def readAuthority (usual : Option Nat) (cs : List Char) :
    Except Fault (Authority × List Char) := do
  let isHosted := usual.isSome
  let area := cs.takeWhile (!endsAuthority isHosted ·)
  let rest := cs.drop area.length
  let place := (area.reverse.takeWhile (· ≠ '@')).reverse
  let credentials := area.take (area.length - place.length - 1)
  let (user, password) := Text.cutAround ':' credentials
  if area.contains '@' ∧ credentials = [] ∧ place = [] ∧ rest ≠ [] then throw .emptyHost
  let hostText := Host.extent false place
  let host ←
    if !isHosted then Host.ofText hostText
    else if hostText = [] then throw .emptyHost
    else Host.ofName hostText
  let afterHost := place.drop hostText.length
  if host = .empty ∧ afterHost ≠ [] then throw .emptyHost
  let digits := (afterHost.drop 1).takeWhile (· ≠ '\\')
  let port ← port? usual digits
  if host = .empty ∧ (user ≠ [] ∨ password ≠ []) then throw .emptyHost
  let asText (part : List Char) : String := String.ofList (escape escapedInUser part)
  let authority : Authority :=
    { user := asText user, password := if password = [] then none else some (asText password)
      host := host, port := port }
  return (authority, (afterHost.drop 1).drop digits.length ++ rest)

def cutTail (cs : List Char) : List Char × Option (List Char) × Option (List Char) :=
  let path := cs.takeWhile fun c => c ≠ '?' ∧ c ≠ '#'
  let rest := cs.drop path.length
  let query := if rest.head? = some '?' then some ((rest.drop 1).takeWhile (· ≠ '#')) else none
  let fragment := match cs.dropWhile (· ≠ '#') with
    | _ :: fragment => some fragment
    | [] => none
  (path, query, fragment)

def withTail (u : Url) (isHosted : Bool) (query fragment : Option (List Char)) : Url :=
  { u with
    query := query.map fun cs => String.ofList (escape (escapedInQuery isHosted) cs)
    fragment := fragment.map fun cs => String.ofList (escape escapedInFragment cs) }

def ofHosted (scheme : String) (usual : Nat) (cs : List Char) : Except Fault Url := do
  let (authority, rest) ← readAuthority (some usual) (cs.dropWhile isSlash)
  let (path, query, fragment) := cutTail rest
  let u : Url :=
    { scheme := scheme, authority := some authority
      path := Path.text (Path.segments isSlash (path.drop 1)) }
  return u.withTail true query fragment

def freePath (isPlace : Bool) (path : List Char) : String :=
  match path with
  | '/' :: rest => Path.text (Path.segments (· == '/') rest)
  | [] => ""
  | _ =>
    if isPlace then Path.text (Path.segments (· == '/') path)
    else String.ofList (escape isControl path)

def ofFree (scheme : String) (cs : List Char) : Except Fault Url := do
  match cs with
  | '/' :: '/' :: rest =>
    let (authority, rest) ← readAuthority none rest
    let (path, query, fragment) := cutTail rest
    let u : Url := { scheme := scheme, authority := some authority, path := freePath true path }
    return u.withTail false query fragment
  | _ =>
    let (path, query, fragment) := cutTail cs
    let u : Url := { scheme := scheme, path := freePath false path }
    return u.withTail false query fragment

/-- The host of a file, which a drive or this machine is none, and what is left for the path. -/
def fileHost (cs : List Char) : Except Fault (Host × List Char) :=
  match cs with
  | a :: b :: rest =>
    if isSlash a && isSlash b then
      let name := rest.takeWhile (!endsAuthority true ·)
      if name = [] ∨ Path.isDrive name then .ok (.empty, rest)
      else do
        let host ← Host.ofName name
        return (if host = .named "localhost" then .empty else host, rest.drop name.length)
    else .ok (.empty, cs)
  | _ => .ok (.empty, cs)

/-- The path of a file begins with no more than one slash, and a drive in it is marked by a colon. -/
def filePath (segments : List (List Char)) : List (List Char) :=
  match segments.dropWhile (· = []) with
  | [] => [[]]
  | first :: rest => (if Path.isDrive first then first.take 1 ++ [':'] else first) :: rest

def ofFile (cs : List Char) : Except Fault Url := do
  let (host, rest) ← fileHost cs
  let (path, query, fragment) := cutTail rest
  let inner := if path.head?.any isSlash then path.drop 1 else path
  let segments := filePath (Path.segments isSlash inner)
  let host := if segments.head?.any Path.isDrive then .empty else host
  let u : Url :=
    { scheme := "file", authority := some { host := host }, path := Path.text segments }
  return u.withTail true query fragment

def read (s : String) : Except Fault Url :=
  match scheme? (clean s) with
  | none => .error .noScheme
  | some (scheme, rest) =>
    if scheme = "file" then ofFile rest
    else
      match hosted.lookup scheme with
      | some usual => ofHosted scheme usual rest
      | none => ofFree scheme rest

end MempoolGate.Url
