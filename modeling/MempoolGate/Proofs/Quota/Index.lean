import MempoolGate.Proofs.Quota.Operations

namespace MempoolGate

/-- Both records are found by the same things and belong to the same account and plan. -/
structure KeyRecord.Kept (a b : KeyRecord) : Prop where
  id : b.id = a.id
  accountId : b.accountId = a.accountId
  keyHash : b.keyHash = a.keyHash
  planId : b.planId = a.planId

theorem KeyRecord.Kept.refl (a : KeyRecord) : a.Kept a :=
  ⟨rfl, rfl, rfl, rfl⟩

theorem KeyRecord.Kept.trans {a b c : KeyRecord} (h : a.Kept b) (h' : b.Kept c) : a.Kept c :=
  ⟨h'.id.trans h.id, h'.accountId.trans h.accountId, h'.keyHash.trans h.keyHash,
    h'.planId.trans h.planId⟩

def KeyOp.IsFresh (s : KeyStore) (op : KeyOp) : Prop :=
  ∀ record ∈ op.record?, s.keys.get? record.id = none

instance (s : KeyStore) (op : KeyOp) : Decidable (op.IsFresh s) :=
  inferInstanceAs (Decidable (∀ record ∈ op.record?, s.keys.get? record.id = none))

def KeyOp.target? (s : KeyStore) : KeyOp → Option Uuid
  | charge _ id | revoke id | setUsage id _ => some id
  | validate _ raw =>
    ((raw.bind Key.normalize?).bind fun key => s.findActive? (Key.hash key)).map (·.record.id)
  | _ => none

namespace KeyStore

def FreshRun (s : KeyStore) : List KeyOp → Prop
  | [] => True
  | op :: ops => op.IsFresh s ∧ FreshRun (s.after op) ops

instance decidableFreshRun (s : KeyStore) : (ops : List KeyOp) → Decidable (s.FreshRun ops)
  | [] => isTrue trivial
  | op :: ops =>
    have := decidableFreshRun (s.after op) ops
    inferInstanceAs (Decidable (op.IsFresh s ∧ FreshRun (s.after op) ops))

theorem freshRun_append (s : KeyStore) (ops more : List KeyOp) :
    s.FreshRun (ops ++ more) ↔ s.FreshRun ops ∧ (s.run ops).FreshRun more := by
  induction ops generalizing s with
  | nil => simp [FreshRun]
  | cons op ops ih => simp only [List.cons_append, FreshRun, run_cons, ih, and_assoc]

/-- What an operation does to a store: nothing, a new record, a change to one record, or a change to
the accounts. -/
inductive Effect (s : KeyStore) (op : KeyOp) : KeyStore → Prop
  | idle (hr : op.revoked? = none) : Effect s op s
  | hold (record : KeyRecord) (hb : op.record? = some record)
      (hfree : s.byHash.get? record.keyHash = none) : Effect s op (s.hold record)
  | edit (id : Uuid) (f : KeyRecord → KeyRecord) (ht : op.target? s = some id)
      (hf : ∀ record : KeyRecord, record.Kept (f record))
      (ha : ∀ record, (f record).active = true ↔ record.active = true ∧ op.revoked? ≠ some id) :
      Effect s op (s.edit id f)
  | accounts (accounts : Table Uuid Account) (hr : op.revoked? = none)
      (ha : ∀ id, op.account? ≠ some id → accounts.get? id = s.accounts.get? id) :
      Effect s op { s with accounts := accounts }

theorem effect_insert {s : KeyStore} {op : KeyOp} {record : KeyRecord} {α : Type} {a : α}
    (hb : op.record? = some record) (hr : op.revoked? = none) :
    Effect s op (s.afterResult ((s.insert record).map (a, ·))) := by
  cases h : s.byHash.get? record.keyHash with
  | none =>
    rw [s.insert_of_free record h]
    exact .hold record hb h
  | some id =>
    rw [s.insert_of_taken record h]
    exact .idle hr

theorem charged_kept (now : Nat) (record : KeyRecord) : record.Kept (record.charged now) :=
  ⟨rfl, rfl, rfl, rfl⟩

theorem effect_charge {s : KeyStore} {op : KeyOp} (hr : op.revoked? = none) (now : Nat) {id : Uuid}
    (ht : op.target? s = some id) : Effect s op (s.afterResult (s.charge now id)) := by
  cases h : s.keys.get? id with
  | none =>
    rw [s.charge_of_unknown now h]
    exact .idle hr
  | some record =>
    rw [s.charge_of_find now h]
    exact .edit id _ ht (charged_kept now) (by simp [hr, KeyRecord.charged])

theorem effect_validate (s : KeyStore) (now : Nat) (raw : Option String) :
    Effect s (.validate now raw) (s.afterResult (s.validate now raw)) := by
  cases hk : raw.bind Key.normalize? with
  | none =>
    rw [s.validate_of_missing now hk]
    exact .idle rfl
  | some key =>
    cases hx : examine (s.findActive? (Key.hash key)) with
    | error reason =>
      rw [s.validate_of_refused now hk hx]
      exact .idle rfl
    | ok admission =>
      obtain ⟨owned, hfound, -, -, rfl⟩ := (examine_eq_ok_iff _ _).mp hx
      have ht : (KeyOp.validate now raw).target? s = some owned.record.id := by
        simp only [KeyOp.target?, hk, Option.bind_some, hfound, Option.map_some]
      have hc := effect_charge rfl now ht
      rw [s.validate_of_admitted now hk hx]
      cases h : s.charge now owned.record.id with
      | error e => exact .idle rfl
      | ok result =>
        rw [h] at hc
        exact hc

theorem after_effect (s : KeyStore) (op : KeyOp) : Effect s op (s.after op) := by
  cases op with
  | register r =>
    cases hk : Key.normalize? r.raw with
    | none =>
      simp only [after, s.registerAs_of_blank hk]
      exact .idle rfl
    | some key =>
      simp only [after, s.registerAs_of_some hk]
      exact effect_insert (by simp [KeyOp.record?, hk]) rfl
  | insert record => exact effect_insert rfl rfl
  | charge now id => exact effect_charge rfl now rfl
  | revoke id =>
    exact .edit id _ rfl (fun _ => ⟨rfl, rfl, rfl, rfl⟩) (by simp [KeyOp.revoked?])
  | setUsage id usage =>
    exact .edit id _ rfl (fun _ => ⟨rfl, rfl, rfl, rfl⟩) (by simp [KeyOp.revoked?])
  | upsertAccount account =>
    refine .accounts _ rfl fun id hid => Table.get?_put_of_ne _ ?_ _
    rintro rfl
    exact hid rfl
  | setAccountStatus id status =>
    refine .accounts _ rfl fun id' hid => Table.get?_modify_of_ne _ ?_ _
    rintro rfl
    exact hid rfl
  | validate now raw => exact effect_validate s now raw

namespace Effect

variable {s s' : KeyStore} {op : KeyOp}

theorem find? (he : Effect s op s') (hfresh : op.IsFresh s) {id : Uuid} {record : KeyRecord}
    (h : s.keys.get? id = some record) :
    ∃ record', s'.keys.get? id = some record' ∧ record.Kept record' ∧
      (record'.active = true ↔ record.active = true ∧ op.revoked? ≠ some id) := by
  cases he with
  | idle hr => exact ⟨record, h, .refl record, by simp [hr]⟩
  | hold new hb hfree =>
    have hne : new.id ≠ id := by
      rintro rfl
      exact Option.some_ne_none _ (h.symm.trans (hfresh new hb))
    have hr : op.revoked? = none := by
      cases op <;> first | rfl | cases hb
    exact ⟨record, (Table.get?_put_of_ne _ hne _).trans h, .refl record, by simp [hr]⟩
  | edit id' f ht hf ha =>
    by_cases he : id' = id
    · subst id'
      exact ⟨f record, by simp [KeyStore.edit, Table.get?_modify, h], hf record, ha record⟩
    · refine ⟨record, (Table.get?_modify_of_ne _ he _).trans h, .refl record, ?_⟩
      have hne : op.revoked? ≠ some id := by
        intro hid
        cases op <;> cases hid
        exact he (Option.some.inj ht).symm
      simp [hne]
  | accounts accounts hr ha => exact ⟨record, h, .refl record, by simp [hr]⟩

theorem find?_of_ne (he : Effect s op s') (hfresh : op.IsFresh s) {id : Uuid} {record : KeyRecord}
    (h : s.keys.get? id = some record) (hne : op.target? s ≠ some id) :
    s'.keys.get? id = some record := by
  cases he with
  | idle | accounts => exact h
  | hold new hb hfree =>
    have hid : new.id ≠ id := by
      rintro rfl
      exact Option.some_ne_none _ (h.symm.trans (hfresh new hb))
    exact (Table.get?_put_of_ne _ hid _).trans h
  | edit id' f ht hf ha =>
    have hid : id' ≠ id := by
      rintro rfl
      exact hne ht
    exact (Table.get?_modify_of_ne _ hid _).trans h

theorem account_of_ne (he : Effect s op s') {id : Uuid} (hne : op.account? ≠ some id) :
    s'.accounts.get? id = s.accounts.get? id := by
  cases he with
  | idle | hold | edit => rfl
  | accounts accounts hr ha => exact ha id hne

theorem byHash_of_some (he : Effect s op s') {hash : String} {id : Uuid}
    (h : s.byHash.get? hash = some id) : s'.byHash.get? hash = some id := by
  cases he with
  | idle | edit | accounts => exact h
  | hold new hb hfree =>
    have hne : new.keyHash ≠ hash := by
      rintro rfl
      exact Option.some_ne_none _ (h.symm.trans hfree)
    exact (Table.get?_put_of_ne _ hne _).trans h

theorem byHash_of_none (he : Effect s op s') {hash : String} {id : Uuid}
    (h : s.byHash.get? hash = none) (h' : s'.byHash.get? hash = some id) :
    ∃ record, op.record? = some record ∧ record.keyHash = hash ∧ record.id = id := by
  cases he with
  | idle | edit | accounts => cases h.symm.trans h'
  | hold new hb hfree =>
    by_cases hn : new.keyHash = hash
    · subst hash
      have hput := Table.get?_put_self s.byHash new.keyHash new.id
      exact ⟨new, hb, rfl, Option.some.inj (hput.symm.trans h')⟩
    · cases h.symm.trans ((Table.get?_put_of_ne _ hn _).symm.trans h')

end Effect

/-- The index and the records say the same of every id and digest. -/
structure Indexed (s : KeyStore) : Prop where
  id_eq : ∀ {id record}, s.keys.get? id = some record → record.id = id
  byHash_iff : ∀ {hash id}, s.byHash.get? hash = some id ↔
    ∃ record, s.keys.get? id = some record ∧ record.keyHash = hash

theorem indexed_empty : Indexed empty where
  id_eq h := by cases h
  byHash_iff := ⟨fun h => by (cases h), fun ⟨_, h, _⟩ => by (cases h)⟩

theorem indexed_hold {s : KeyStore} (hs : s.Indexed) {new : KeyRecord}
    (hfree : s.byHash.get? new.keyHash = none) (hnew : s.keys.get? new.id = none) :
    (s.hold new).Indexed where
  id_eq {id record} h := by
    by_cases hid : new.id = id
    · subst id
      cases (Table.get?_put_self _ _ _).symm.trans h
      rfl
    · exact hs.id_eq ((Table.get?_put_of_ne _ hid _).symm.trans h)
  byHash_iff {hash id} := by
    have hh : (s.hold new).byHash.get? hash = _ := Table.get?_put s.byHash new.keyHash hash new.id
    have hk : (s.hold new).keys.get? id = _ := Table.get?_put s.keys new.id id new
    rw [hh, hk]
    by_cases hn : new.keyHash = hash <;> by_cases hid : new.id = id
    · subst hash id
      simp
    · subst hash
      rw [if_pos rfl, if_neg hid, ← hs.byHash_iff, hfree]
      simp [hid]
    · subst id
      rw [if_neg hn, if_pos rfl, hs.byHash_iff, hnew]
      simp [hn]
    · rw [if_neg hn, if_neg hid]
      exact hs.byHash_iff

theorem indexed_edit {s : KeyStore} (hs : s.Indexed) (id : Uuid) {f : KeyRecord → KeyRecord}
    (hf : ∀ record : KeyRecord, record.Kept (f record)) : (s.edit id f).Indexed where
  id_eq {id' record} h := by
    change (s.keys.modify id f).get? id' = some record at h
    rw [Table.get?_modify] at h
    by_cases he : id = id'
    · rw [if_pos he] at h
      obtain ⟨old, hold, rfl⟩ := Option.map_eq_some_iff.mp h
      exact (hf old).id.trans (hs.id_eq hold)
    · rw [if_neg he] at h
      exact hs.id_eq h
  byHash_iff {hash id'} := by
    change s.byHash.get? hash = some id' ↔
      ∃ record, (s.keys.modify id f).get? id' = some record ∧ record.keyHash = hash
    rw [hs.byHash_iff, Table.get?_modify]
    by_cases he : id = id'
    · rw [if_pos he]
      subst id'
      constructor
      · rintro ⟨old, hold, rfl⟩
        exact ⟨f old, by rw [hold]; rfl, (hf old).keyHash⟩
      · rintro ⟨_, hnew, rfl⟩
        obtain ⟨old, hold, rfl⟩ := Option.map_eq_some_iff.mp hnew
        exact ⟨old, hold, (hf old).keyHash.symm⟩
    · rw [if_neg he]

theorem Effect.indexed {s s' : KeyStore} {op : KeyOp} (he : Effect s op s') (hfresh : op.IsFresh s)
    (hs : s.Indexed) : s'.Indexed := by
  cases he with
  | idle => exact hs
  | hold new hb hfree => exact indexed_hold hs hfree (hfresh new hb)
  | edit id f ht hf ha => exact indexed_edit hs id hf
  | accounts => exact ⟨hs.id_eq, hs.byHash_iff⟩

theorem indexed_run {s : KeyStore} (hs : s.Indexed) {ops : List KeyOp} (hfresh : s.FreshRun ops) :
    (s.run ops).Indexed := by
  induction ops generalizing s with
  | nil => exact hs
  | cons op ops ih => exact ih ((after_effect s op).indexed hfresh.1 hs) hfresh.2

def Reachable (s : KeyStore) : Prop :=
  ∃ ops, empty.FreshRun ops ∧ empty.run ops = s

theorem Reachable.indexed {s : KeyStore} (h : s.Reachable) : s.Indexed := by
  obtain ⟨ops, hfresh, rfl⟩ := h
  exact indexed_run indexed_empty hfresh

theorem find?_run {s : KeyStore} {ops : List KeyOp} (hfresh : s.FreshRun ops) {id : Uuid}
    {record : KeyRecord} (h : s.keys.get? id = some record) :
    ∃ record', (s.run ops).keys.get? id = some record' ∧ record.Kept record' ∧
      (record'.active = true ↔ record.active = true ∧ .revoke id ∉ ops) := by
  induction ops generalizing s record with
  | nil => exact ⟨record, h, .refl record, by simp⟩
  | cons op ops ih =>
    obtain ⟨mid, hmid, hkept, hact⟩ := (after_effect s op).find? hfresh.1 h
    obtain ⟨last, hlast, hkept', hact'⟩ := ih hfresh.2 hmid
    refine ⟨last, hlast, hkept.trans hkept', ?_⟩
    have hr : op.revoked? = some id ↔ .revoke id = op := by
      cases op <;> simp [KeyOp.revoked?, eq_comm]
    rw [hact', hact, List.mem_cons, not_or, ← hr, and_assoc]

theorem byHash_run_of_some {s : KeyStore} (ops : List KeyOp) {hash : String} {id : Uuid}
    (h : s.byHash.get? hash = some id) : (s.run ops).byHash.get? hash = some id := by
  induction ops generalizing s with
  | nil => exact h
  | cons op ops ih => exact ih ((after_effect s op).byHash_of_some h)

/-- A digest that came to lead to an id in a run was brought by the operation under whose id it is, and
was free when that operation came. -/
theorem byHash_run_of_none {s : KeyStore} {ops : List KeyOp} {hash : String} {id : Uuid}
    (h : s.byHash.get? hash = none) (h' : (s.run ops).byHash.get? hash = some id) :
    ∃ before op since record, ops = before ++ op :: since ∧ op.record? = some record ∧
      record.keyHash = hash ∧ record.id = id ∧ (s.run before).byHash.get? hash = none := by
  induction ops generalizing s with
  | nil => cases h.symm.trans h'
  | cons op ops ih =>
    cases hmid : (s.after op).byHash.get? hash with
    | none =>
      obtain ⟨before, op', since, record, rfl, hb, hh, hid, hfree⟩ := ih hmid h'
      exact ⟨op :: before, op', since, record, rfl, hb, hh, hid, hfree⟩
    | some id' =>
      obtain ⟨record, hb, hh, hid⟩ := (after_effect s op).byHash_of_none h hmid
      have hsame : id' = id := by
        have hlast := byHash_run_of_some ops hmid
        exact Option.some.inj (hlast.symm.trans h')
      exact ⟨[], op, ops, record, rfl, hb, hh, hid.trans hsame, h⟩

end KeyStore

end MempoolGate
