import MempoolGate.Rpc.Client
import MempoolGate.Table

namespace MempoolGate.Rpc

structure Clients where
  table : Table String Client := {}

namespace Clients

def size (cs : Clients) : Nat := cs.table.size

def get (cs : Clients) (registry : Registry) (name : String) : Client × Clients :=
  let network := registry.resolve name
  match cs.table.get? network.id with
  | some client => (client, cs)
  | none =>
    let client : Client := { serial := cs.size, network := network }
    (client, ⟨cs.table.put network.id client⟩)

def keep (cs : Clients) (client : Client) : Clients :=
  ⟨cs.table.put client.network.id client⟩

end Clients

end MempoolGate.Rpc
