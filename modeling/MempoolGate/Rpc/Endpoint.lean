import MempoolGate.Text.Find
import MempoolGate.Url.Reader

namespace MempoolGate

def hiddenKey : String := "***HIDDEN***"

/-- The address with all that follows the path segment `v2`, or else `v3`, hidden. -/
def maskUrl (url : String) : String :=
  let hideAfter (mark : String) :=
    (Text.beforeFirst? mark.toList url.toList).map fun base => String.ofList base ++ mark ++ hiddenKey
  ((hideAfter "/v2/").or (hideAfter "/v3/")).getD url

inductive EndpointFault
  | unreadable (fault : Url.Fault)
  | schemeNotAllowed (url : Url)
  | unfit (url : Url)
deriving DecidableEq, Repr

namespace EndpointFault

def message : EndpointFault → String
  | unreadable fault => "builder error: " ++ fault.message
  | schemeNotAllowed url => "builder error for url (" ++ url.text ++ "): URL scheme is not allowed"
  | unfit url => "builder error for url (" ++ url.text ++ "): Parsed Url is not a valid Uri"

end EndpointFault

namespace Url

/-- The address without a user, who is named in a header of the request instead. -/
def withoutUser (u : Url) : Url :=
  { u with authority := u.authority.map Authority.withoutUser }

def longestTarget : Nat := 65534

/-- A request line can hold the address: it is not too long, and its host has no quotes of either kind
and no braces. -/
def fitsRequest (u : Url) : Bool :=
  let isUnfit (c : Char) : Bool := ['"', '\x60', '\x7b', '\x7d'].contains c
  !(u.host?.any fun host => host.text.toList.any isUnfit) && u.text.utf8ByteSize ≤ longestTarget

end Url

def checkEndpoint (url : String) : Except EndpointFault Unit :=
  match Url.read url with
  | .error fault => .error (.unreadable fault)
  | .ok u =>
    if u.host?.isNone then .error (.schemeNotAllowed u)
    else
      let u := u.withoutUser
      if u.scheme ≠ "http" ∧ u.scheme ≠ "https" then .error (.schemeNotAllowed u)
      else if u.fitsRequest then .ok ()
      else .error (.unfit u)

end MempoolGate
