import MempoolGate.Proofs.Quota.Verdict

namespace MempoolGate

/-- The record that comes with an operation is taken up. -/
def KeyOp.isTakenUp (s : KeyStore) (op : KeyOp) : Bool :=
  op.record?.any fun record => (s.insert record).isOk

namespace KeyStore

def takenUp (s : KeyStore) : List KeyOp → Nat
  | [] => 0
  | op :: ops => (op.isTakenUp s).toNat + takenUp (s.after op) ops

def AccountsNamed (s : KeyStore) : Prop :=
  ∀ {id account}, s.accounts.get? id = some account → account.id = id

section Records

variable {s : KeyStore} {op : KeyOp} {record : KeyRecord}

/-- An operation that comes with a record does what the insertion of the record does. -/
theorem after_of_record (hb : op.record? = some record) :
    s.after op = s.afterResult ((s.insert record).map ((), ·)) := by
  cases op with
  | register r =>
    obtain ⟨key, hk, rfl⟩ := Option.map_eq_some_iff.mp hb
    rw [after, s.registerAs_of_some hk]
    cases s.insert (r.record key) <;> rfl
  | insert record' =>
    cases hb
    rfl
  | charge | revoke | setUsage | upsertAccount | setAccountStatus | validate => cases hb

theorem size_after (s : KeyStore) (hfresh : op.IsFresh s) :
    (s.after op).size = s.size + (op.isTakenUp s).toNat := by
  cases hb : op.record? with
  | some record =>
    rw [after_of_record hb, KeyOp.isTakenUp, hb, Option.any_some]
    cases h : s.byHash.get? record.keyHash with
    | none =>
      rw [s.insert_of_free record h]
      exact Table.size_put_of_fresh (hfresh record hb) record
    | some id =>
      rw [s.insert_of_taken record h]
      rfl
  | none =>
    have hnot : op.isTakenUp s = false := by rw [KeyOp.isTakenUp, hb]; rfl
    rw [hnot]
    have heffect := after_effect s op
    generalize s.after op = s' at heffect ⊢
    cases heffect with
    | idle | accounts => rfl
    | hold record hb' => cases hb.symm.trans hb'
    | edit id f => exact Table.size_modify s.keys id f

end Records

theorem size_run {s : KeyStore} {ops : List KeyOp} (hfresh : s.FreshRun ops) :
    (s.run ops).size = s.size + s.takenUp ops := by
  induction ops generalizing s with
  | nil => rfl
  | cons op ops ih =>
    rw [run_cons, ih hfresh.2, size_after s hfresh.1, takenUp, Nat.add_assoc]

theorem AccountsNamed.after {s : KeyStore} (h : s.AccountsNamed) (op : KeyOp) :
    (s.after op).AccountsNamed := by
  intro id account haccount
  cases op with
  | upsertAccount account' =>
    change (s.accounts.put account'.id account').get? id = some account at haccount
    rw [Table.get?_put] at haccount
    split at haccount
    · next hid =>
      cases haccount
      exact hid
    · exact h haccount
  | setAccountStatus id' status =>
    change (s.accounts.modify id' _).get? id = some account at haccount
    rw [Table.get?_modify] at haccount
    split at haccount
    · obtain ⟨old, hold, rfl⟩ := Option.map_eq_some_iff.mp haccount
      have hid : old.id = id := h hold
      exact hid
    · exact h haccount
  | register | insert | charge | revoke | setUsage | validate =>
    rw [(after_effect s _).account_of_ne (by simp [KeyOp.account?])] at haccount
    exact h haccount

theorem AccountsNamed.run {s : KeyStore} (h : s.AccountsNamed) (ops : List KeyOp) :
    (s.run ops).AccountsNamed := by
  induction ops generalizing s with
  | nil => exact h
  | cons op ops ih => exact ih (h.after op)

namespace Indexed

variable {s : KeyStore}

theorem find?_inj (hs : s.Indexed) {id id' : Uuid} {record record' : KeyRecord}
    (h : s.find? id = some record) (h' : s.find? id' = some record')
    (hhash : record.keyHash = record'.keyHash) : id = id' := by
  have hid := hs.byHash_iff.mpr ⟨record, h, rfl⟩
  have hid' := hs.byHash_iff.mpr ⟨record', h', hhash.symm⟩
  exact Option.some.inj (hid.symm.trans hid')

/-- A look-up finds the active record with the digest, and no other. -/
theorem findActive?_iff (hs : s.Indexed) (hash : String) (owned : OwnedKey) :
    s.findActive? hash = some owned ↔
      s.find? owned.record.id = some owned.record ∧ owned.record.keyHash = hash ∧
        owned.record.active = true ∧
        s.accounts.get? owned.record.accountId = some owned.account := by
  rw [findActive?_eq_some_iff]
  constructor
  · rintro ⟨id, hid, hrec, hactive, haccount⟩
    cases hs.id_eq hrec
    obtain ⟨record, hrec', hhash⟩ := hs.byHash_iff.mp hid
    cases hrec.symm.trans hrec'
    exact ⟨hrec, hhash, hactive, haccount⟩
  · rintro ⟨hrec, hhash, hactive, haccount⟩
    exact ⟨owned.record.id, hs.byHash_iff.mpr ⟨_, hrec, hhash⟩, hrec, hactive, haccount⟩

theorem exists_validate (hs : s.Indexed) (now : Nat) (raw : Option String) :
    ∃ verdict s', s.validate now raw = .ok (verdict, s') := by
  cases hk : raw.bind Key.normalize? with
  | none => exact ⟨_, _, s.validate_of_missing now hk⟩
  | some key =>
    obtain ⟨verdict, s', hv, -⟩ := judged hs now hk
    exact ⟨verdict, s', hv⟩

end Indexed

/-- After any operations: the index and the records are inverse to each other, so that no two records
share a digest; there are as many records as were taken up; a look-up finds exactly the active record
with its digest and the account of that record; every presented text gets a verdict. After any operations
more a record still has its id, digest, plan and account, and one that a look-up found can be charged. -/
theorem represents_run (ops : List KeyOp) (hfresh : empty.FreshRun ops) :
    let s := empty.run ops
    (∀ hash id, s.byHash.get? hash = some id ↔
      ∃ record, s.find? id = some record ∧ record.id = id ∧ record.keyHash = hash) ∧
    (∀ id id' record record', s.find? id = some record → s.find? id' = some record' →
      record.keyHash = record'.keyHash → id = id') ∧
    s.size = empty.takenUp ops ∧
    (∀ hash owned, s.findActive? hash = some owned ↔
      s.find? owned.record.id = some owned.record ∧ owned.record.keyHash = hash ∧
        owned.record.active = true ∧
        s.accounts.get? owned.record.accountId = some owned.account) ∧
    (∀ id account, s.accounts.get? id = some account → account.id = id) ∧
    (∀ now raw, ∃ verdict s', s.validate now raw = .ok (verdict, s')) ∧
    ∀ more, s.FreshRun more →
      (∀ id record, s.find? id = some record → ∃ record', (s.run more).find? id = some record' ∧
        record'.id = record.id ∧ record'.keyHash = record.keyHash ∧
        record'.planId = record.planId ∧ record'.accountId = record.accountId) ∧
      ∀ hash owned now, s.findActive? hash = some owned →
        ∃ usage s', (s.run more).charge now owned.record.id = .ok (usage, s') := by
  intro s
  have hs : s.Indexed := indexed_run indexed_empty hfresh
  have hnamed : s.AccountsNamed := AccountsNamed.run (fun h => by cases h) ops
  have hsize : s.size = 0 + empty.takenUp ops := size_run hfresh
  refine ⟨fun hash id => ?_, fun _ _ _ _ => hs.find?_inj, hsize.trans (Nat.zero_add _),
    hs.findActive?_iff, fun _ _ => hnamed, hs.exists_validate, fun more hmore => ⟨?_, ?_⟩⟩
  · rw [hs.byHash_iff]
    constructor
    · rintro ⟨record, hrec, hhash⟩
      exact ⟨record, hrec, hs.id_eq hrec, hhash⟩
    · rintro ⟨record, hrec, -, hhash⟩
      exact ⟨record, hrec, hhash⟩
  · intro id record hrec
    obtain ⟨record', hrec', hkept, -⟩ := find?_run hmore hrec
    exact ⟨record', hrec', hkept.id, hkept.keyHash, hkept.planId, hkept.accountId⟩
  · intro hash owned now hfound
    obtain ⟨hrec, -⟩ := (hs.findActive?_iff hash owned).mp hfound
    obtain ⟨record', hrec', -⟩ := find?_run hmore hrec
    exact ⟨_, _, charge_of_find _ now hrec'⟩

def sampleRecord (id : UInt8) (digest : String) : KeyRecord :=
  { id := .filled 16 id, accountId := .filled 16 1, name := "ci", keyHash := digest, visible := "sg_",
    planId := "pro", usage := 7 }

/-- The third record comes under a digest that is taken, also after its record is revoked. -/
def crowdedRun : List KeyOp :=
  [.insert (sampleRecord 11 "aa"), .upsertAccount ⟨.filled 16 1, "a@example.com", .active⟩,
   .insert (sampleRecord 12 "bb"), .revoke (.filled 16 12), .insert (sampleRecord 13 "bb"),
   .charge 3 (.filled 16 11)]

theorem represents_run_crowdedRun :
    empty.FreshRun crowdedRun ∧ (empty.run crowdedRun).size = 2 ∧
      ∃ owned, (empty.run crowdedRun).findActive? "aa" = some owned ∧ owned.record.usage = 8 ∧
        (empty.run crowdedRun).FreshRun [.revoke owned.record.id, .insert (sampleRecord 13 "cc")] ∧
        ∃ usage s', ((empty.run crowdedRun).run
          [.revoke owned.record.id, .insert (sampleRecord 13 "cc")]).charge 9 owned.record.id =
            .ok (usage, s') := by
  have hfresh : empty.FreshRun crowdedRun := by decide +kernel
  have htaken : empty.takenUp crowdedRun = 2 := by decide +kernel
  obtain ⟨-, -, hsize, hfound, -, -, hmore⟩ := represents_run crowdedRun hfresh
  let owned : OwnedKey :=
    ⟨(sampleRecord 11 "aa").charged 3, ⟨.filled 16 1, "a@example.com", .active⟩⟩
  have howned : (empty.run crowdedRun).findActive? "aa" = some owned :=
    (hfound "aa" owned).mpr (by decide +kernel)
  have hlater : (empty.run crowdedRun).FreshRun
      [.revoke owned.record.id, .insert (sampleRecord 13 "cc")] := by decide +kernel
  exact ⟨hfresh, hsize.trans htaken, owned, howned, by decide +kernel, hlater,
    (hmore _ hlater).2 "aa" owned 9 howned⟩

end KeyStore

end MempoolGate
