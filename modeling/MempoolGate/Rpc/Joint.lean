import MempoolGate.Rpc.Client

namespace MempoolGate.Rpc

structure Joint (α : Type) where
  rounds : Nat
  outcome : Except GatewayError α

def Call.alone {α : Type} (c : Call α) : Joint α :=
  ⟨c.attempts.length, c.outcome⟩

namespace Joint

variable {α β : Type}

/-- Both calls, if both succeed. Otherwise the failure that comes first; of two in the same round,
that of the first call. -/
def both (a : Joint α) (b : Joint β) : Joint (α × β) :=
  match a.outcome, b.outcome with
  | .ok x, .ok y => ⟨max a.rounds b.rounds, .ok (x, y)⟩
  | .error e, .ok _ => ⟨a.rounds, .error e⟩
  | .ok _, .error e => ⟨b.rounds, .error e⟩
  | .error e, .error e' =>
    if b.rounds < a.rounds then ⟨b.rounds, .error e'⟩ else ⟨a.rounds, .error e⟩

def pauses (a : Joint α) : Nat :=
  (List.range (a.rounds - 1)).foldl (fun total n => total + backoff (n + 1)) 0

end Joint

end MempoolGate.Rpc
