import MempoolGate.Proofs.Quota.Representation

namespace MempoolGate.KeyStore

/-- Every digest of the index leads to a record. -/
def Led (s : KeyStore) : Prop :=
  ∀ {hash id}, s.byHash.get? hash = some id → ∃ record, s.find? id = some record

theorem Effect.led {s s' : KeyStore} {op : KeyOp} (he : Effect s op s') (h : s.Led) : s'.Led := by
  intro hash id hid
  cases he with
  | idle | accounts => exact h hid
  | hold new hb hfree =>
    have hkeys : (s.hold new).find? id = _ := Table.get?_put s.keys new.id id new
    rw [hkeys]
    by_cases hnew : new.id = id
    · exact ⟨new, if_pos hnew⟩
    · rw [if_neg hnew]
      change (s.byHash.put new.keyHash new.id).get? hash = some id at hid
      rw [Table.get?_put] at hid
      split at hid
      · exact absurd (Option.some.inj hid) hnew
      · exact h hid
  | edit id' f =>
    obtain ⟨record, hrec⟩ := h hid
    have hkeys : (s.edit id' f).find? id = _ := Table.get?_modify s.keys id' id f
    rw [hkeys]
    split
    · exact ⟨f record, congrArg (Option.map f) hrec⟩
    · exact ⟨record, hrec⟩

theorem led_run {s : KeyStore} (h : s.Led) (ops : List KeyOp) : (s.run ops).Led := by
  induction ops generalizing s with
  | nil => exact h
  | cons op ops ih => exact ih ((after_effect s op).led h)

section Hold

variable (s : KeyStore) (record : KeyRecord)

theorem find?_hold_of_ne {id : Uuid} (h : id ≠ record.id) : (s.hold record).find? id = s.find? id :=
  Table.get?_put_of_ne s.keys (Ne.symm h) record

theorem findActive?_hold_of_ne {hash : String} (hhash : hash ≠ record.keyHash)
    (hid : s.byHash.get? hash ≠ some record.id) :
    (s.hold record).findActive? hash = s.findActive? hash := by
  have hindex : (s.hold record).byHash.get? hash = s.byHash.get? hash :=
    Table.get?_put_of_ne s.byHash (Ne.symm hhash) record.id
  unfold findActive?
  rw [hindex]
  cases h : s.byHash.get? hash with
  | none => rfl
  | some id =>
    have hne : id ≠ record.id := fun he => hid (h.trans (congrArg some he))
    have hkeys : (s.hold record).keys.get? id = s.keys.get? id := s.find?_hold_of_ne record hne
    rw [Option.bind_some, Option.bind_some, hkeys]
    rfl

theorem findActive?_hold_of_id {hash : String} (h : s.byHash.get? hash = some record.id) :
    (s.hold record).findActive? hash = (s.hold record).findActive? record.keyHash := by
  have hself : (s.hold record).byHash.get? record.keyHash = some record.id :=
    Table.get?_put_self s.byHash record.keyHash record.id
  have hindex : (s.hold record).byHash.get? hash = some record.id := by
    by_cases hhash : record.keyHash = hash
    · rw [← hhash, hself]
    · exact (Table.get?_put_of_ne s.byHash hhash record.id).trans h
  unfold findActive?
  rw [hindex, hself]

end Hold

/-- A record is refused when its digest is taken, and nothing happens. Else it is taken up: accounts,
records under other ids and look-ups of other digests that do not lead to its id are as before, so that
nothing at all is disturbed when its id is not in use. When its id is in use, the digests that led to it
lead to the new record. -/
theorem insert_run (ops : List KeyOp) (record : KeyRecord) :
    let s := empty.run ops
    let s' := s.after (.insert record)
    ((s.byHash.get? record.keyHash = none ∧ s.insert record = .ok s') ∨
      ((∃ e, s.insert record = .error e ∧ e.code = .storeConflict) ∧ s' = s)) ∧
    s'.accounts = s.accounts ∧
    (∀ id, id ≠ record.id → s'.find? id = s.find? id) ∧
    (s.find? record.id = none →
      (∀ id old, s.find? id = some old → s'.find? id = some old) ∧
      ∀ hash, hash ≠ record.keyHash → s'.findActive? hash = s.findActive? hash) ∧
    ∀ hash, hash ≠ record.keyHash →
      (s.byHash.get? hash ≠ some record.id → s'.findActive? hash = s.findActive? hash) ∧
      (s.byHash.get? hash = some record.id → s.insert record = .ok s' →
        s'.findActive? hash = s'.findActive? record.keyHash) := by
  intro s s'
  have hled : s.Led := led_run (fun h => by cases h) ops
  cases hfree : s.byHash.get? record.keyHash with
  | some id =>
    have hinsert := s.insert_of_taken record hfree
    have hsame : s' = s := by
      simp only [s', after, hinsert]
      rfl
    rw [hsame, hinsert]
    refine ⟨.inr ⟨⟨_, rfl, rfl⟩, rfl⟩, rfl, fun _ _ => rfl, fun _ => ⟨fun _ _ h => h, fun _ _ => rfl⟩,
      fun _ _ => ⟨fun _ => rfl, fun _ h => by cases h⟩⟩
  | none =>
    have hinsert := s.insert_of_free record hfree
    have hheld : s' = s.hold record := by
      simp only [s', after, hinsert]
      rfl
    rw [hheld]
    refine ⟨.inl ⟨rfl, hinsert⟩, rfl, fun _ => s.find?_hold_of_ne record, fun hnew => ⟨?_, ?_⟩, ?_⟩
    · intro id old hold
      have hne : id ≠ record.id := by
        rintro rfl
        cases hnew.symm.trans hold
      exact (s.find?_hold_of_ne record hne).trans hold
    · intro hash hhash
      apply s.findActive?_hold_of_ne record hhash
      intro hid
      -- a digest that led to the id would have led to a record under it
      obtain ⟨old, hold⟩ := hled hid
      cases hnew.symm.trans hold
    · intro hash hhash
      exact ⟨s.findActive?_hold_of_ne record hhash, fun hid _ => s.findActive?_hold_of_id record hid⟩

def revokedRun : List KeyOp :=
  [.upsertAccount ⟨.filled 16 1, "a@example.com", .active⟩, .insert (sampleRecord 11 "aa"),
    .revoke (.filled 16 11)]

theorem insert_run_revokedRun :
    let s := empty.run revokedRun
    let s' := s.after (.insert (sampleRecord 12 "bb"))
    s.find? (.filled 16 12) = none ∧ s.insert (sampleRecord 12 "bb") = .ok s' ∧
      s'.find? (.filled 16 11) = some { sampleRecord 11 "aa" with active := false } ∧
      s'.findActive? "aa" = none := by
  intro s s'
  have hnew : s.find? (.filled 16 12) = none := by decide +kernel
  have hold : s.find? (.filled 16 11) = some { sampleRecord 11 "aa" with active := false } := by
    decide +kernel
  have hnone : s.findActive? "aa" = none := by decide +kernel
  obtain ⟨hresult, -, -, hkept, -⟩ := insert_run revokedRun (sampleRecord 12 "bb")
  obtain ⟨hrecords, hlookups⟩ := hkept hnew
  refine ⟨hnew, ?_, hrecords _ _ hold, (hlookups "aa" (by decide)).trans hnone⟩
  rcases hresult with ⟨-, hok⟩ | ⟨-, hsame⟩
  · exact hok
  · have hmore : s'.size ≠ s.size := by decide +kernel
    exact absurd (congrArg size hsame) hmore

/-- Under the id of the revoked key the record replaces it, and the revoked digest is active again. -/
theorem insert_usedId :
    let s := empty.run revokedRun
    let s' := s.after (.insert (sampleRecord 11 "bb"))
    s.insert (sampleRecord 11 "bb") = .ok s' ∧ s.findActive? "aa" = none ∧
      s.find? (.filled 16 11) = some { sampleRecord 11 "aa" with active := false } ∧
      s'.find? (.filled 16 11) = some (sampleRecord 11 "bb") ∧
      s'.findActive? "aa" =
        some ⟨sampleRecord 11 "bb", ⟨.filled 16 1, "a@example.com", .active⟩⟩ := by
  intro s s'
  have hfree : s.byHash.get? "bb" = none := by decide +kernel
  have hinsert := s.insert_of_free (sampleRecord 11 "bb") hfree
  have hheld : s' = s.hold (sampleRecord 11 "bb") := by
    simp only [s', after, hinsert]
    rfl
  refine ⟨hheld ▸ hinsert, ?_, ?_, ?_, ?_⟩ <;> decide +kernel

end MempoolGate.KeyStore
