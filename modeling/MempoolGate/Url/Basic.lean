import MempoolGate.Url.Host

namespace MempoolGate

namespace Url

/-- What stands between the two slashes and the path. User and password are held with their escapes. -/
structure Authority where
  user : String := ""
  password : Option String := none
  host : Host := .empty
  port : Option Nat := none
deriving DecidableEq, Repr

namespace Authority

def text (a : Authority) : String :=
  let credentials := a.user ++ (a.password.map (":" ++ ·)).getD ""
  (if credentials = "" then "" else credentials ++ "@") ++ a.host.text ++
    (a.port.map fun port => ":" ++ Text.decimal port).getD ""

/-- A user whose name can be read, and who has a name or a password that can be, is left out. -/
def withoutUser (a : Authority) : Authority :=
  match Text.percentDecode? a.user with
  | none => a
  | some user =>
    if user = "" ∧ (a.password.bind Text.percentDecode?).isNone then a
    else { a with user := "", password := none }

end Authority

end Url

structure Url where
  scheme : String
  authority : Option Url.Authority := none
  path : String := ""
  query : Option String := none
  fragment : Option String := none
deriving DecidableEq, Repr

namespace Url

def guarded (path : String) : String :=
  if path.toList.take 2 = ['/', '/'] then "/." ++ path else path

def text (u : Url) : String :=
  let place := match u.authority with
    | some a => "//" ++ a.text ++ u.path
    | none => guarded u.path
  u.scheme ++ ":" ++ place ++ (u.query.map ("?" ++ ·)).getD "" ++
    (u.fragment.map ("#" ++ ·)).getD ""

def host? (u : Url) : Option Host :=
  (u.authority.map (·.host)).filter (· ≠ .empty)

end Url

end MempoolGate
