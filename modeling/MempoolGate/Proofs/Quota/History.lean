import MempoolGate.Proofs.Plan
import MempoolGate.Proofs.Quota.Verdict
import MempoolGate.Proofs.Text.Trimming

namespace MempoolGate.KeyStore

/-- A registration of the key text went through, and what came after it. -/
def Registered (ops : List KeyOp) (key : String) (r : Registration) (since : List KeyOp) : Prop :=
  ∃ before, ops = before ++ .register r :: since ∧ Key.normalize? r.raw = some key ∧
    ((empty.run before).registerAs r).isOk = true

def statusAfter (id : Uuid) (known : Option AccountStatus) : KeyOp → Option AccountStatus
  | .upsertAccount account => if account.id = id then some account.status else known
  | .setAccountStatus id' status => if id' = id then known.map fun _ => status else known
  | _ => known

def lastStatus? (ops : List KeyOp) (id : Uuid) : Option AccountStatus :=
  ops.foldl (statusAfter id) none

/-- The key text is held by a registration, was not revoked since, and its account has a status. -/
structure Stands (ops : List KeyOp) (key : String) (r : Registration) (status : AccountStatus) :
    Prop where
  registered : ∃ since, Registered ops key r since ∧ .revoke r.id ∉ since
  account : lastStatus? ops r.accountId = some status

def textsOf (ops : List KeyOp) (raw : Option String) : List String :=
  (raw.bind Key.normalize?).toList ++ ops.filterMap KeyOp.text?

/-- No two of the key texts that occur have the same digest. -/
def DigestsApart (ops : List KeyOp) (raw : Option String) : Prop :=
  ∀ a ∈ textsOf ops raw, ∀ b ∈ textsOf ops raw, Key.hash a = Key.hash b → a = b

theorem status_after (s : KeyStore) (op : KeyOp) (id : Uuid) :
    ((s.after op).accounts.get? id).map (·.status) =
      statusAfter id ((s.accounts.get? id).map (·.status)) op := by
  cases op with
  | upsertAccount account =>
    change ((s.accounts.put account.id account).get? id).map (·.status) = _
    rw [Table.get?_put, statusAfter]
    by_cases h : account.id = id
    · rw [if_pos h, if_pos h]
      rfl
    · rw [if_neg h, if_neg h]
  | setAccountStatus id' status =>
    change ((s.accounts.modify id' _).get? id).map (·.status) = _
    rw [Table.get?_modify, statusAfter]
    by_cases h : id' = id
    · rw [if_pos h, if_pos h]
      cases s.accounts.get? id <;> rfl
    · rw [if_neg h, if_neg h]
  | register | insert | charge | revoke | setUsage | validate =>
    rw [(after_effect s _).account_of_ne (by simp [KeyOp.account?])]
    rfl

theorem status_run (s : KeyStore) (ops : List KeyOp) (id : Uuid) :
    ((s.run ops).accounts.get? id).map (·.status) =
      ops.foldl (statusAfter id) ((s.accounts.get? id).map (·.status)) := by
  induction ops generalizing s with
  | nil => rfl
  | cons op ops ih => rw [run_cons, ih, status_after, List.foldl_cons]

theorem status_history (ops : List KeyOp) (id : Uuid) :
    ((empty.run ops).accounts.get? id).map (·.status) = lastStatus? ops id :=
  status_run empty ops id

theorem statusAfter_eq_none_iff (id : Uuid) (known : Option AccountStatus) (op : KeyOp) :
    statusAfter id known op = none ↔
      known = none ∧ ∀ account, op = .upsertAccount account → account.id ≠ id := by
  cases op with
  | upsertAccount account =>
    by_cases h : account.id = id <;> simp [statusAfter, h]
  | setAccountStatus id' status =>
    by_cases h : id' = id <;> simp [statusAfter, h]
  | register | insert | charge | revoke | setUsage | validate => simp [statusAfter]

theorem foldl_statusAfter_eq_none_iff (id : Uuid) (ops : List KeyOp) (known : Option AccountStatus) :
    ops.foldl (statusAfter id) known = none ↔
      known = none ∧ ∀ account, .upsertAccount account ∈ ops → account.id ≠ id := by
  induction ops generalizing known with
  | nil => simp
  | cons op ops ih =>
    rw [List.foldl_cons, ih, statusAfter_eq_none_iff]
    constructor
    · rintro ⟨⟨hknown, hop⟩, hops⟩
      refine ⟨hknown, fun account hmem => ?_⟩
      rcases List.mem_cons.mp hmem with he | hmem
      · exact hop account he.symm
      · exact hops account hmem
    · rintro ⟨hknown, hall⟩
      exact ⟨⟨hknown, fun account he => hall account (he ▸ List.mem_cons_self)⟩,
        fun account hmem => hall account (List.mem_cons_of_mem _ hmem)⟩

theorem lastStatus?_eq_none_iff (ops : List KeyOp) (id : Uuid) :
    lastStatus? ops id = none ↔ ∀ account, .upsertAccount account ∈ ops → account.id ≠ id :=
  (foldl_statusAfter_eq_none_iff id ops none).trans (and_iff_right rfl)

theorem isOk_registerAs_iff {s : KeyStore} {r : Registration} {key : String}
    (hk : Key.normalize? r.raw = some key) :
    (s.registerAs r).isOk = true ↔ s.byHash.get? (Key.hash key) = none := by
  rw [s.registerAs_of_some hk]
  cases h : s.byHash.get? (Key.hash key) with
  | none =>
    rw [s.insert_of_free (r.record key) h]
    simp [Except.map, Except.isOk, Except.toBool]
  | some id =>
    rw [s.insert_of_taken (r.record key) h]
    simp [Except.map, Except.isOk, Except.toBool]

theorem after_register_of_free {s : KeyStore} {r : Registration} {key : String}
    (hk : Key.normalize? r.raw = some key) (h : s.byHash.get? (Key.hash key) = none) :
    s.after (.register r) = s.hold (r.record key) := by
  simp only [after, s.registerAs_of_some hk, s.insert_of_free (r.record key) h]
  rfl

section History

variable {ops : List KeyOp} {key : String} {r : Registration} {since : List KeyOp}

/-- What a registration has left in the store: its id under the digest, and under the id its record,
active until it is revoked. -/
theorem Registered.find? (h : Registered ops key r since) (hfresh : empty.FreshRun ops) :
    (empty.run ops).byHash.get? (Key.hash key) = some r.id ∧
      ∃ record, (empty.run ops).keys.get? r.id = some record ∧ (r.record key).Kept record ∧
        (record.active = true ↔ .revoke r.id ∉ since) := by
  obtain ⟨before, rfl, hk, hok⟩ := h
  have hfree := (isOk_registerAs_iff hk).mp hok
  obtain ⟨-, hregister, hsince⟩ := (freshRun_append _ _ _).mp hfresh
  rw [run_append, run_cons]
  rw [after_register_of_free hk hfree] at hsince ⊢
  have hid := Table.get?_put_self (empty.run before).byHash (Key.hash key) r.id
  have hrec := Table.get?_put_self (empty.run before).keys r.id (r.record key)
  refine ⟨byHash_run_of_some since hid, ?_⟩
  obtain ⟨record, hfind, hkept, hactive⟩ := find?_run hsince hrec
  exact ⟨record, hfind, hkept, by simpa [Registration.record] using hactive⟩

theorem exists_registered {raw : Option String} (hinsert : ∀ record, .insert record ∉ ops)
    (hapart : DigestsApart ops raw) (hk : raw.bind Key.normalize? = some key) {id : Uuid}
    (h : (empty.run ops).byHash.get? (Key.hash key) = some id) :
    ∃ r since, Registered ops key r since ∧ r.id = id := by
  obtain ⟨before, op, since, record, rfl, hb, hhash, rfl, hfree⟩ := byHash_run_of_none rfl h
  cases op with
  | insert => exact absurd (List.mem_append_right _ List.mem_cons_self) (hinsert _)
  | charge | revoke | setUsage | upsertAccount | setAccountStatus | validate => cases hb
  | register r =>
    obtain ⟨key', hk', rfl⟩ := Option.map_eq_some_iff.mp hb
    have hmem : key' ∈ textsOf (before ++ .register r :: since) raw := by
      refine List.mem_append_right _ (List.mem_filterMap.mpr ⟨.register r, ?_, hk'⟩)
      exact List.mem_append_right _ List.mem_cons_self
    have hmem' : key ∈ textsOf (before ++ .register r :: since) raw := by
      refine List.mem_append_left _ ?_
      rw [hk]
      exact List.mem_singleton_self key
    cases hapart key' hmem key hmem' hhash
    exact ⟨r, since, ⟨before, rfl, hk', (isOk_registerAs_iff hk').mpr hfree⟩, rfl⟩

theorem Stands.findActive? {status : AccountStatus} (h : Stands ops key r status)
    (hfresh : empty.FreshRun ops) :
    ∃ owned, (empty.run ops).findActive? (Key.hash key) = some owned ∧
      (empty.run ops).find? r.id = some owned.record ∧ (r.record key).Kept owned.record ∧
      owned.account.status = status := by
  obtain ⟨⟨since, hreg, hrevoke⟩, hstatus⟩ := h
  obtain ⟨hid, record, hrec, hkept, hactive⟩ := hreg.find? hfresh
  rw [← status_history] at hstatus
  obtain ⟨account, hacc, rfl⟩ := Option.map_eq_some_iff.mp hstatus
  have hacc' : (empty.run ops).accounts.get? record.accountId = some account := by
    rw [hkept.accountId]
    exact hacc
  exact ⟨⟨record, account⟩, (findActive?_eq_some_iff _ _ _).mpr
    ⟨r.id, hid, hrec, hactive.mpr hrevoke, hacc'⟩, hrec, hkept, rfl⟩

theorem exists_stands {raw : Option String} (hfresh : empty.FreshRun ops)
    (hinsert : ∀ record, .insert record ∉ ops) (hapart : DigestsApart ops raw)
    (hk : raw.bind Key.normalize? = some key) {owned : OwnedKey}
    (h : (empty.run ops).findActive? (Key.hash key) = some owned) :
    ∃ r, Stands ops key r owned.account.status ∧ (empty.run ops).find? r.id = some owned.record ∧
      (r.record key).Kept owned.record := by
  obtain ⟨id, hid, hrec, hact, hacc⟩ := (findActive?_eq_some_iff _ _ _).mp h
  obtain ⟨r, since, hreg, rfl⟩ := exists_registered hinsert hapart hk hid
  obtain ⟨-, record, hrec', hkept, hactive⟩ := hreg.find? hfresh
  cases hrec.symm.trans hrec'
  refine ⟨r, ⟨⟨since, hreg, hactive.mp hact⟩, ?_⟩, hrec, hkept⟩
  have haccount : owned.record.accountId = r.accountId := hkept.accountId
  rw [← status_history, ← haccount, hacc]
  rfl

theorem resolve_planId {record : KeyRecord} (hkept : (r.record key).Kept record) :
    Plan.resolve record.planId = Plan.resolve r.planText := by
  rw [hkept.planId]
  simp only [Registration.record, Plan.resolve_id_resolve]

/-- What holds of the found record and its account holds of the registration by which the key text
stands, and the other way round. -/
theorem exists_findActive?_iff {raw : Option String} (hfresh : empty.FreshRun ops)
    (hinsert : ∀ record, .insert record ∉ ops) (hapart : DigestsApart ops raw)
    (hk : raw.bind Key.normalize? = some key) (status : AccountStatus)
    (p : Plan → KeyRecord → Prop) :
    (∃ owned, (empty.run ops).findActive? (Key.hash key) = some owned ∧
        owned.account.status = status ∧ p (Plan.resolve owned.record.planId) owned.record) ↔
      ∃ r record, Stands ops key r status ∧ (empty.run ops).find? r.id = some record ∧
        p (Plan.resolve r.planText) record := by
  constructor
  · rintro ⟨owned, hfound, rfl, hp⟩
    obtain ⟨r, hstands, hrec, hkept⟩ := exists_stands hfresh hinsert hapart hk hfound
    exact ⟨r, owned.record, hstands, hrec, resolve_planId hkept ▸ hp⟩
  · rintro ⟨r, record, hstands, hrec, hp⟩
    obtain ⟨owned, hfound, hrec', hkept, hstatus⟩ := hstands.findActive? hfresh
    cases hrec.symm.trans hrec'
    exact ⟨owned, hfound, hstatus, (resolve_planId hkept).symm ▸ hp⟩

theorem findActive?_eq_none_iff {raw : Option String} (hfresh : empty.FreshRun ops)
    (hinsert : ∀ record, .insert record ∉ ops) (hapart : DigestsApart ops raw)
    (hk : raw.bind Key.normalize? = some key) :
    (empty.run ops).findActive? (Key.hash key) = none ↔
      ∀ r since, Registered ops key r since → .revoke r.id ∈ since ∨
        ∀ account, .upsertAccount account ∈ ops → account.id ≠ r.accountId := by
  constructor
  · intro hnone r since hreg
    by_cases hrevoke : .revoke r.id ∈ since
    · exact .inl hrevoke
    · refine .inr ((lastStatus?_eq_none_iff ops r.accountId).mp ?_)
      refine Option.eq_none_iff_forall_ne_some.mpr fun status hstatus => ?_
      have hstands : Stands ops key r status := ⟨⟨since, hreg, hrevoke⟩, hstatus⟩
      obtain ⟨owned, hfound, -⟩ := hstands.findActive? hfresh
      cases hnone.symm.trans hfound
  · intro h
    refine Option.eq_none_iff_forall_ne_some.mpr fun owned hfound => ?_
    obtain ⟨r, ⟨⟨since, hreg, hrevoke⟩, hstatus⟩, -⟩ :=
      exists_stands hfresh hinsert hapart hk hfound
    rcases h r since hreg with hr | hnever
    · exact hrevoke hr
    · rw [(lastStatus?_eq_none_iff ops r.accountId).mpr hnever] at hstatus
      cases hstatus

theorem Registered.findActive?_eq_none (h : Registered ops key r since)
    (hfresh : empty.FreshRun ops) (hrevoke : .revoke r.id ∈ since) :
    (empty.run ops).findActive? (Key.hash key) = none := by
  obtain ⟨hid, record, hrec, -, hactive⟩ := h.find? hfresh
  refine Option.eq_none_iff_forall_ne_some.mpr fun owned hfound => ?_
  obtain ⟨id, hid', hrec', hact, -⟩ := (findActive?_eq_some_iff _ _ _).mp hfound
  cases hid.symm.trans hid'
  cases hrec.symm.trans hrec'
  exact hactive.mp hact hrevoke

theorem Registered.registerAs_eq_error (h : Registered ops key r since)
    (hfresh : empty.FreshRun ops) {r' : Registration} (hk : Key.normalize? r'.raw = some key) :
    (empty.run ops).registerAs r' =
      .error { code := .storeConflict, message := "An API key with this hash already exists" } := by
  rw [registerAs_of_some _ hk, insert_of_taken _ (r'.record key) (h.find? hfresh).1]
  rfl

end History

/-- The verdict on a presented text is decided by what happened to its key and to the key's account:
no key when it is blank; unknown when no registration of the trimmed text went through, or it was
revoked since, or its account was never written; the status last written to the account when that is
not active; else the plan of the registration against the calls counted for the key. A revoked text is
never accepted again, and cannot be registered again. -/
theorem validate_run (ops : List KeyOp) (raw : Option String) (now : Nat)
    (hfresh : empty.FreshRun ops) (hinsert : ∀ record, .insert record ∉ ops)
    (hapart : DigestsApart ops raw) :
    ∃ verdict s', (empty.run ops).validate now raw = .ok (verdict, s') ∧
      (verdict = .rejected .keyRequired ↔
        ∀ text, raw = some text → ∀ c ∈ text.toList, Text.isBlank c = true) ∧
      (verdict = .rejected .invalidOrRevoked ↔
        ∃ key, raw.bind Key.normalize? = some key ∧
          ∀ r since, Registered ops key r since → .revoke r.id ∈ since ∨
            ∀ account, .upsertAccount account ∈ ops → account.id ≠ r.accountId) ∧
      (∀ status, verdict = .rejected (.accountInactive status) ↔
        ∃ key r, raw.bind Key.normalize? = some key ∧ Stands ops key r status ∧
          status ≠ .active) ∧
      (∀ limit usage, verdict = .rejected (.limitReached limit usage) ↔
        ∃ key r record, raw.bind Key.normalize? = some key ∧ Stands ops key r .active ∧
          (empty.run ops).find? r.id = some record ∧
          (Plan.resolve r.planText).allowance = .finite limit ∧
          record.usage = usage ∧ limit.toNat ≤ usage.toNat) ∧
      ((∃ call, verdict = .valid call) ↔
        ∃ key r record, raw.bind Key.normalize? = some key ∧ Stands ops key r .active ∧
          (empty.run ops).find? r.id = some record ∧
          ∀ limit, (Plan.resolve r.planText).allowance = .finite limit →
            record.usage.toNat < limit.toNat) ∧
      ∀ key r since, Registered ops key r since →
        (.revoke r.id ∈ since → raw.bind Key.normalize? = some key →
          verdict = .rejected .invalidOrRevoked) ∧
        ∀ r' : Registration, Key.normalize? r'.raw = some key →
          (empty.run ops).registerAs r' =
            .error { code := .storeConflict
                     message := "An API key with this hash already exists" } := by
  have hindexed := indexed_run indexed_empty hfresh
  have hblank : raw.bind Key.normalize? = none ↔
      ∀ text, raw = some text → ∀ c ∈ text.toList, Text.isBlank c = true := by
    cases raw with
    | none => simp
    | some text => simpa [Key.normalize?] using Text.trimmed?_eq_none_iff text
  rw [← hblank]
  cases hk : raw.bind Key.normalize? with
  | none =>
    refine ⟨_, _, validate_of_missing _ now hk, by simp, by simp, by simp, by simp, by simp, ?_⟩
    intro key r since hreg
    exact ⟨by simp, fun r' hk' => hreg.registerAs_eq_error hfresh hk'⟩
  | some key =>
    obtain ⟨verdict, s', hv, hj⟩ := judged hindexed now hk
    -- what holds of the record that is found holds of the registration, and the other way round
    have hfind := exists_findActive?_iff hfresh hinsert hapart hk
    refine ⟨verdict, s', hv, by simp [hj.ne_keyRequired], ?_, ?_, ?_, ?_, ?_⟩
    · rw [hj.unknown_iff, findActive?_eq_none_iff hfresh hinsert hapart hk]
      simp
    · intro status
      have hstands := hfind status fun _ _ => True
      rw [hj.inactive_iff]
      simp only [and_true] at hstands
      rw [hstands]
      constructor
      · rintro ⟨hne, r, record, hr, -⟩
        exact ⟨key, r, rfl, hr, hne⟩
      · rintro ⟨key', r, hkey, hr, hne⟩
        cases hkey
        obtain ⟨owned, -, hrec, -⟩ := hr.findActive? hfresh
        exact ⟨hne, r, owned.record, hr, hrec⟩
    · intro limit usage
      rw [hj.limitReached_iff, hfind .active fun plan record =>
        plan.allowance = .finite limit ∧ record.usage = usage ∧ limit.toNat ≤ usage.toNat]
      simp
    · rw [hj.valid_iff, hfind .active fun plan record =>
        ∀ limit, plan.allowance = .finite limit → record.usage.toNat < limit.toNat]
      simp
    · intro key' r since hreg
      refine ⟨fun hrevoke hkey => ?_, fun r' hk' => hreg.registerAs_eq_error hfresh hk'⟩
      cases hkey
      exact hj.unknown_iff.mpr (hreg.findActive?_eq_none hfresh hrevoke)

def sampleRegistration (id account : UInt8) (raw planText : String) : Registration :=
  { id := .filled 16 id, accountId := .filled 16 account, raw := raw, name := "ci",
    planText := planText }

/-- Two keys of two accounts; the second key is revoked, and its text is asked for again. -/
def sampleHistory : List KeyOp :=
  [.upsertAccount ⟨.filled 16 1, "a@example.com", .active⟩,
   .register (sampleRegistration 11 1 " sg_one " "PRO"),
   .register (sampleRegistration 12 2 "sg_two" "starter"),
   .upsertAccount ⟨.filled 16 2, "b@example.com", .active⟩,
   .validate 5 (some "sg_two"),
   .revoke (.filled 16 12),
   .register (sampleRegistration 13 1 "sg_two\n" "enterprise"),
   .setUsage (.filled 16 11) 50000]

theorem validate_run_sampleHistory :
    empty.FreshRun sampleHistory ∧ (∀ record, .insert record ∉ sampleHistory) ∧
      DigestsApart sampleHistory (some "\tsg_two") ∧
      ∃ s', (empty.run sampleHistory).validate 9 (some "\tsg_two") =
        .ok (.rejected .invalidOrRevoked, s') := by
  have hfresh : empty.FreshRun sampleHistory := by decide +kernel
  have hinsert : ∀ record, .insert record ∉ sampleHistory := by simp [sampleHistory]
  have hdigest : Key.hash "sg_one" ≠ Key.hash "sg_two" := by decide +kernel
  have htexts : textsOf sampleHistory (some "\tsg_two") =
      ["sg_two", "sg_one", "sg_two", "sg_two", "sg_two"] := by decide +kernel
  have hapart : DigestsApart sampleHistory (some "\tsg_two") := by
    unfold DigestsApart
    rw [htexts]
    simp [hdigest, hdigest.symm]
  have hreg : Registered sampleHistory "sg_two" (sampleRegistration 12 2 "sg_two" "starter")
      (sampleHistory.drop 3) :=
    ⟨sampleHistory.take 2, rfl, by decide +kernel, by decide +kernel⟩
  obtain ⟨verdict, s', hv, -, -, -, -, -, hlast⟩ :=
    validate_run sampleHistory (some "\tsg_two") 9 hfresh hinsert hapart
  have hrejected := (hlast _ _ _ hreg).1 (by decide) (by decide +kernel)
  exact ⟨hfresh, hinsert, hapart, s', hrejected ▸ hv⟩

end MempoolGate.KeyStore
