import MempoolGate.Quota.Gate
import MempoolGate.Proofs.Table

namespace MempoolGate

structure Registration where
  id : Uuid
  accountId : Uuid
  raw : String
  name : String
  planText : String
deriving DecidableEq, Repr

inductive KeyOp
  | register (r : Registration)
  | insert (record : KeyRecord)
  | charge (now : Nat) (id : Uuid)
  | revoke (id : Uuid)
  | setUsage (id : Uuid) (usage : UInt64)
  | upsertAccount (account : Account)
  | setAccountStatus (id : Uuid) (status : AccountStatus)
  | validate (now : Nat) (raw : Option String)
deriving DecidableEq, Repr

def Registration.record (r : Registration) (key : String) : KeyRecord :=
  { id := r.id, accountId := r.accountId, name := r.name, keyHash := Key.hash key,
    visible := Key.visiblePart key, planId := (Plan.resolve r.planText).id }

namespace KeyOp

def record? : KeyOp → Option KeyRecord
  | register r => (Key.normalize? r.raw).map r.record
  | insert record => some record
  | _ => none

def revoked? : KeyOp → Option Uuid
  | revoke id => some id
  | _ => none

def account? : KeyOp → Option Uuid
  | upsertAccount account => some account.id
  | setAccountStatus id _ => some id
  | _ => none

def text? : KeyOp → Option String
  | register r => Key.normalize? r.raw
  | validate _ raw => raw.bind Key.normalize?
  | _ => none

end KeyOp

def KeyRecord.charged (record : KeyRecord) (now : Nat) : KeyRecord :=
  { record with usage := nextUsage record.usage, lastUsedAt := some now }

namespace KeyStore

def registerAs (s : KeyStore) (r : Registration) : Except GatewayError (KeyRecord × KeyStore) :=
  s.register r.id r.accountId r.raw r.name r.planText

def afterResult {α : Type} (s : KeyStore) : Except GatewayError (α × KeyStore) → KeyStore
  | .ok (_, s') => s'
  | .error _ => s

def after (s : KeyStore) : KeyOp → KeyStore
  | .register r => s.afterResult (s.registerAs r)
  | .insert record => s.afterResult ((s.insert record).map ((), ·))
  | .charge now id => s.afterResult (s.charge now id)
  | .revoke id => s.revoke id
  | .setUsage id usage => s.setUsage id usage
  | .upsertAccount account => s.upsertAccount account
  | .setAccountStatus id status => s.setAccountStatus id status
  | .validate now raw => s.afterResult (s.validate now raw)

def run (s : KeyStore) (ops : List KeyOp) : KeyStore :=
  ops.foldl after s

@[simp] theorem run_nil (s : KeyStore) : s.run [] = s := rfl

@[simp] theorem run_cons (s : KeyStore) (op : KeyOp) (ops : List KeyOp) :
    s.run (op :: ops) = (s.after op).run ops := rfl

theorem run_append (s : KeyStore) (ops more : List KeyOp) :
    s.run (ops ++ more) = (s.run ops).run more :=
  List.foldl_append

/-- A record is taken up under its id and its digest. -/
def hold (s : KeyStore) (record : KeyRecord) : KeyStore :=
  { s with
    byHash := s.byHash.put record.keyHash record.id
    keys := s.keys.put record.id record }

def edit (s : KeyStore) (id : Uuid) (f : KeyRecord → KeyRecord) : KeyStore :=
  { s with keys := s.keys.modify id f }

section Operations

variable (s : KeyStore)

theorem insert_of_free (record : KeyRecord) (h : s.byHash.get? record.keyHash = none) :
    s.insert record = .ok (s.hold record) := by
  unfold insert
  rw [if_neg (by simp [Table.contains, h])]
  rfl

theorem insert_of_taken (record : KeyRecord) {id : Uuid}
    (h : s.byHash.get? record.keyHash = some id) :
    s.insert record =
      .error { code := .storeConflict, message := "An API key with this hash already exists" } := by
  unfold insert
  rw [if_pos ((Table.contains_iff _ _).mpr ⟨id, h⟩)]

theorem charge_of_find {id : Uuid} {record : KeyRecord} (now : Nat)
    (h : s.keys.get? id = some record) :
    s.charge now id = .ok (nextUsage record.usage, s.edit id (·.charged now)) := by
  simp only [charge, edit, Table.modify, h]
  rfl

theorem charge_of_unknown {id : Uuid} (now : Nat) (h : s.keys.get? id = none) :
    s.charge now id = .error { code := .apiNotFound, message := "Unknown key " ++ id.text } := by
  simp only [charge, h]

theorem registerAs_of_blank {r : Registration} (h : Key.normalize? r.raw = none) :
    s.registerAs r = .error (.badRequest "API key must not be empty") := by
  simp only [registerAs, register, h]

theorem registerAs_of_some {r : Registration} {key : String} (h : Key.normalize? r.raw = some key) :
    s.registerAs r = (s.insert (r.record key)).map (r.record key, ·) := by
  simp only [registerAs, register, h]
  rfl

theorem registerAs_eq_badRequest_iff {r : Registration} :
    s.registerAs r = .error (.badRequest "API key must not be empty") ↔
      Key.normalize? r.raw = none := by
  cases hkey : Key.normalize? r.raw with
  | none => exact iff_of_true (s.registerAs_of_blank hkey) rfl
  | some key =>
    refine iff_of_false ?_ nofun
    rw [s.registerAs_of_some hkey]
    cases htaken : s.byHash.get? (Key.hash key) with
    | none =>
      rw [s.insert_of_free (r.record key) htaken]
      exact nofun
    | some id =>
      rw [s.insert_of_taken (r.record key) htaken]
      exact nofun

theorem findActive?_eq_some_iff (hash : String) (owned : OwnedKey) :
    s.findActive? hash = some owned ↔
      ∃ id, s.byHash.get? hash = some id ∧ s.keys.get? id = some owned.record ∧
        owned.record.active = true ∧
        s.accounts.get? owned.record.accountId = some owned.account := by
  unfold findActive?
  cases hid : s.byHash.get? hash with
  | none => simp
  | some id =>
    cases hrec : s.keys.get? id with
    | none => simp [hrec]
    | some record =>
      cases ha : record.active with
      | false =>
        simp only [Option.bind_some, hrec, ha, Bool.false_eq_true, if_false, reduceCtorEq,
          Option.some.injEq, false_iff]
        rintro ⟨_, rfl, hr, hact, -⟩
        cases hrec.symm.trans hr
        simp [ha] at hact
      | true =>
        simp only [Option.bind_some, hrec, ha, if_true, Option.map_eq_some_iff, Option.some.injEq]
        constructor
        · rintro ⟨account, hacc, rfl⟩
          exact ⟨id, rfl, hrec, ha, hacc⟩
        · rintro ⟨_, rfl, hr, -, hacc⟩
          cases hrec.symm.trans hr
          exact ⟨owned.account, hacc, rfl⟩

theorem validate_of_missing {raw : Option String} (now : Nat) (h : raw.bind Key.normalize? = none) :
    s.validate now raw = .ok (.rejected .keyRequired, s) := by
  simp only [validate, validateWith, h]

theorem validate_of_refused {raw : Option String} {key : String} {reason : Rejection} (now : Nat)
    (h : raw.bind Key.normalize? = some key)
    (hx : examine (s.findActive? (Key.hash key)) = .error reason) :
    s.validate now raw = .ok (.rejected reason, s) := by
  simp only [validate, validateWith, h, bind, Except.bind, hx]
  rfl

theorem validate_of_admitted {raw : Option String} {key : String} {admission : Admission}
    (now : Nat) (h : raw.bind Key.normalize? = some key)
    (hx : examine (s.findActive? (Key.hash key)) = .ok admission) :
    s.validate now raw =
      (s.charge now admission.record.id).map fun (usage, s') => (.valid ⟨admission, usage⟩, s') := by
  simp only [validate, validateWith, h, bind, Except.bind, hx]
  cases s.charge now admission.record.id <;> rfl

theorem eq_of_validate_rejected {now : Nat} {raw : Option String} {reason : Rejection}
    {s' : KeyStore} (h : s.validate now raw = .ok (.rejected reason, s')) : s' = s := by
  cases hk : raw.bind Key.normalize? with
  | none =>
    rw [s.validate_of_missing now hk] at h
    cases h
    rfl
  | some key =>
    cases hx : examine (s.findActive? (Key.hash key)) with
    | error reason' =>
      rw [s.validate_of_refused now hk hx] at h
      cases h
      rfl
    | ok admission =>
      rw [s.validate_of_admitted now hk hx] at h
      cases hcharge : s.charge now admission.record.id <;> rw [hcharge] at h <;> cases h

end Operations

end KeyStore

theorem examine_none : examine none = .error .invalidOrRevoked := rfl

theorem examine_of_inactive {owned : OwnedKey} (h : owned.account.status ≠ .active) :
    examine (some owned) = .error (.accountInactive owned.account.status) := by
  simp only [examine, if_pos h]

theorem examine_of_exhausted {owned : OwnedKey} (h : owned.account.status = .active)
    (hx : (Plan.resolve owned.record.planId).allowance.isExhausted owned.record.usage = true) :
    examine (some owned) =
      .error (.limitReached (Plan.resolve owned.record.planId).allowance.ceiling
        owned.record.usage) := by
  simp only [examine, h, ne_eq, not_true_eq_false, if_false, hx, if_true]

theorem examine_of_allowed {owned : OwnedKey} (h : owned.account.status = .active)
    (hx : (Plan.resolve owned.record.planId).allowance.isExhausted owned.record.usage = false) :
    examine (some owned) = .ok ⟨owned.record, Plan.resolve owned.record.planId⟩ := by
  simp only [examine, h, ne_eq, not_true_eq_false, if_false, hx, Bool.false_eq_true]

theorem examine_eq_ok_iff (found : Option OwnedKey) (admission : Admission) :
    examine found = .ok admission ↔
      ∃ owned, found = some owned ∧ owned.account.status = .active ∧
        (Plan.resolve owned.record.planId).allowance.isExhausted owned.record.usage = false ∧
        admission = ⟨owned.record, Plan.resolve owned.record.planId⟩ := by
  constructor
  · intro h
    cases found with
    | none => cases h
    | some owned =>
      by_cases hs : owned.account.status = .active
      · cases hx : (Plan.resolve owned.record.planId).allowance.isExhausted owned.record.usage with
        | true => cases (examine_of_exhausted hs hx).symm.trans h
        | false =>
          cases (examine_of_allowed hs hx).symm.trans h
          exact ⟨owned, rfl, hs, hx, rfl⟩
      · cases (examine_of_inactive hs).symm.trans h
  · rintro ⟨owned, rfl, hs, hx, rfl⟩
    exact examine_of_allowed hs hx

end MempoolGate
