import MempoolGate.Error
import MempoolGate.Plan
import MempoolGate.Quota.Key
import MempoolGate.Table
import MempoolGate.Uuid

namespace MempoolGate

inductive AccountStatus
  | active
  | pending
  | banned
  | suspended
deriving DecidableEq, Repr

namespace AccountStatus

def name : AccountStatus → String
  | active => "active"
  | pending => "pending"
  | banned => "banned"
  | suspended => "suspended"

def ofName? (s : String) : Option AccountStatus :=
  [active, pending, banned, suspended].find? (·.name = s)

end AccountStatus

structure Account where
  id : Uuid
  email : String
  status : AccountStatus
deriving DecidableEq, Repr

/-- A key as it is stored: its digest and its visible part, never the key itself. -/
structure KeyRecord where
  id : Uuid
  accountId : Uuid
  name : String
  keyHash : String
  visible : String
  planId : String
  usage : UInt64 := 0
  active : Bool := true
  lastUsedAt : Option Nat := none
deriving DecidableEq, Repr

structure OwnedKey where
  record : KeyRecord
  account : Account
deriving DecidableEq, Repr

structure KeyStore where
  keys : Table Uuid KeyRecord := {}
  byHash : Table String Uuid := {}
  accounts : Table Uuid Account := {}
deriving Repr

/-- One call more, stopping at the greatest number of 64 bits. -/
def nextUsage (usage : UInt64) : UInt64 :=
  UInt64.ofNat (min (usage.toNat + 1) (UInt64.size - 1))

namespace KeyStore

def empty : KeyStore := {}

def size (s : KeyStore) : Nat := s.keys.size

def find? (s : KeyStore) (id : Uuid) : Option KeyRecord := s.keys.get? id

def findActive? (s : KeyStore) (hash : String) : Option OwnedKey :=
  match (s.byHash.get? hash).bind s.keys.get? with
  | some record =>
    if record.active then (s.accounts.get? record.accountId).map (⟨record, ·⟩) else none
  | none => none

def insert (s : KeyStore) (record : KeyRecord) : Except GatewayError KeyStore :=
  if s.byHash.contains record.keyHash then
    .error { code := .storeConflict, message := "An API key with this hash already exists" }
  else
    -- only the digest is looked at: a record that has the id already is replaced
    .ok { s with
      byHash := s.byHash.put record.keyHash record.id
      keys := s.keys.put record.id record }

def charge (s : KeyStore) (now : Nat) (id : Uuid) : Except GatewayError (UInt64 × KeyStore) :=
  match s.keys.get? id with
  | none => .error { code := .apiNotFound, message := "Unknown key " ++ id.text }
  | some record =>
    let usage := nextUsage record.usage
    .ok (usage,
      { s with keys := s.keys.put id { record with usage := usage, lastUsedAt := some now } })

def revoke (s : KeyStore) (id : Uuid) : KeyStore :=
  { s with keys := s.keys.modify id fun record => { record with active := false } }

def setUsage (s : KeyStore) (id : Uuid) (usage : UInt64) : KeyStore :=
  { s with keys := s.keys.modify id fun record => { record with usage := usage } }

def upsertAccount (s : KeyStore) (account : Account) : KeyStore :=
  { s with accounts := s.accounts.put account.id account }

def setAccountStatus (s : KeyStore) (id : Uuid) (status : AccountStatus) : KeyStore :=
  { s with accounts := s.accounts.modify id fun account => { account with status := status } }

def register (s : KeyStore) (id accountId : Uuid) (raw name planText : String) :
    Except GatewayError (KeyRecord × KeyStore) :=
  match Key.normalize? raw with
  | none => .error (.badRequest "API key must not be empty")
  | some key =>
    let record : KeyRecord :=
      { id := id, accountId := accountId, name := name, keyHash := Key.hash key,
        visible := Key.visiblePart key, planId := (Plan.resolve planText).id }
    (s.insert record).map (record, ·)

end KeyStore

end MempoolGate
