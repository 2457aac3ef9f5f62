import MempoolGate.Table

namespace MempoolGate

/-- How often each network has been picked, modulo 2^64. -/
structure Rotation where
  counters : Table String UInt64 := {}
deriving Repr

namespace Rotation

/-- The next of `count` endpoints of a network. Without endpoints nothing is counted. -/
def next (r : Rotation) (network : String) (count : Nat) : UInt64 × Rotation :=
  if count = 0 then (0, r)
  else
    let n := (r.counters.get? network).getD 0
    -- the counter wraps around, at which the turns may skip some endpoints
    (UInt64.ofNat (n.toNat % count), ⟨r.counters.put network (n + 1)⟩)

end Rotation

end MempoolGate
