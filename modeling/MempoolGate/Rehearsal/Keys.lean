import MempoolGate.Rehearsal.World

namespace MempoolGate.Rehearsal

structure NamedRecord where
  key : Option String
  account : Option String
  isDrawn : Bool
  record : KeyRecord
deriving DecidableEq, Repr

structure Issued extends NamedRecord where
  raw : String
deriving DecidableEq, Repr

def drawnLetters (number : Nat) : List Char :=
  let digits := Nat.toDigits 10 number
  List.replicate (Key.randomLength - digits.length) 'x' ++ digits

def nameOf? (names : Table String Uuid) (id : Uuid) : Option String :=
  let candidates := (names.entries.filter fun entry => entry.2 = id).map (·.1)
  (candidates.mergeSort fun a b => a ≤ b).head?

namespace World

def accountId (w : World) (name : String) : Uuid :=
  (w.accounts.get? name).getD Uuid.nil

def keyId (w : World) (name : String) : Uuid :=
  (w.keys.get? name).getD Uuid.nil

def store (w : World) : KeyStore := w.gateway.store

def withStore (w : World) (store : KeyStore) : World :=
  { w with gateway := { w.gateway with store := store } }

def named (w : World) (record : KeyRecord) : NamedRecord :=
  ⟨nameOf? w.keys record.id, nameOf? w.accounts record.accountId, record.keyHash ∈ w.drawn, record⟩

def idFor (w : World) (names : Table String Uuid) (name : String) : Uuid × World :=
  match names.get? name with
  | some id => (id, w)
  | none => w.takeId

def upsertAccount (w : World) (name email : String) (status : AccountStatus) : World :=
  let (id, w) := w.idFor w.accounts name
  { w.withStore (w.store.upsertAccount ⟨id, email, status⟩) with accounts := w.accounts.put name id }

def setStatus (w : World) (name : String) (status : AccountStatus) : Bool × World :=
  let id := w.accountId name
  (w.store.accounts.contains id, w.withStore (w.store.setAccountStatus id status))

def register (w : World) (key account raw name plan : String) :
    Except GatewayError NamedRecord × World :=
  let (id, w) := w.takeId
  match w.store.register id (w.accountId account) raw name plan with
  | .error e => (.error e, w)
  | .ok (record, store) =>
    let w := { w.withStore store with keys := w.keys.put key id, rawKeys := w.rawKeys.put key raw }
    (.ok (w.named record), w)

def issue (w : World) (key account name plan : String) : Except GatewayError Issued × World :=
  let raw := Key.issue (drawnLetters w.ids)
  let w := { w with drawn := Key.hash raw :: w.drawn }
  match w.register key account raw name plan with
  | (.error e, w) => (.error e, w)
  | (.ok record, w) => (.ok ⟨record, raw⟩, w)

def insert (w : World) (key account : String) (record : KeyRecord) :
    Except GatewayError Unit × World :=
  let (id, w) := w.idFor w.keys key
  match w.store.insert { record with id := id, accountId := w.accountId account } with
  | .error e => (.error e, w)
  | .ok store => (.ok (), { w.withStore store with keys := w.keys.put key id })

def revoke (w : World) (key : String) : Bool × World :=
  let id := w.keyId key
  ((w.store.find? id).isSome, w.withStore (w.store.revoke id))

def setUsage (w : World) (key : String) (usage : UInt64) : Bool × World :=
  let id := w.keyId key
  ((w.store.find? id).isSome, w.withStore (w.store.setUsage id usage))

def increment (w : World) (key : String) : Except GatewayError UInt64 × World :=
  match w.store.charge w.clock (w.keyId key) with
  | .error e => (.error e, w)
  | .ok (usage, store) => (.ok usage, w.withStore store)

def find? (w : World) (key : String) : Option NamedRecord :=
  (w.store.find? (w.keyId key)).map w.named

def findActive (w : World) (hash : String) : Except GatewayError (Option (NamedRecord × Account)) :=
  (w.gateway.lookup hash).map fun found => found.map fun owned => (w.named owned.record, owned.account)

def breakStore (w : World) (isBroken : Bool) : World :=
  let outage : Option GatewayError :=
    if isBroken then some { code := .apiInternalError, message := "store down" } else none
  { w with gateway := { w.gateway with outage := outage } }

def validate (w : World) (raw : Option String) : Except GatewayError Verdict × World :=
  let (verdict, gateway) := w.gateway.validate w.clock raw
  (verdict, { w with gateway := gateway })

def validateNamed (w : World) (key : String) : Except GatewayError Verdict × World :=
  w.validate (w.rawKeys.get? key)

end World

end MempoolGate.Rehearsal
