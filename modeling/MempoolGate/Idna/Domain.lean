import MempoolGate.Idna.Label

namespace MempoolGate.Idna

def isForbidden (c : Char) : Bool :=
  c.toNat ≤ 0x20 || c.toNat == 0x7F || "%#/:<>?@[\\]^|".toList.contains c

/-- The name in ASCII; `none` if it is no name of a domain. -/
def toAscii? (name : String) : Option String := do
  let name := Text.composed (← mapped? name.toList)
  if name.any isForbidden then none
  else
    let labels ← (name.splitOn '.').mapM Label.read?
    if labels.any (fun label => turns label.meaning) &&
        !labels.all (fun label => keepsDirection label.meaning) then none
    else some (String.ofList (['.'].intercalate (labels.map (·.written))))

end MempoolGate.Idna
