import MempoolGate.Proofs.Quota.Index

namespace MempoolGate

theorem Allowance.isExhausted_iff (a : Allowance) (usage : UInt64) :
    a.isExhausted usage = true ↔ ∃ limit, a = .finite limit ∧ limit.toNat ≤ usage.toNat := by
  cases a with
  | finite limit => simp [isExhausted]
  | unlimited => simp [isExhausted]

theorem toNat_nextUsage (usage : UInt64) :
    (nextUsage usage).toNat = min (usage.toNat + 1) (UInt64.size - 1) := by
  unfold nextUsage
  rw [UInt64.toNat_ofNat_of_lt']
  exact Nat.lt_of_le_of_lt (Nat.min_le_right _ _) (by decide)

namespace KeyStore

/-- The verdict on the key text `key` and the store after it, by what is found. -/
inductive Judged (s : KeyStore) (now : Nat) (key : String) : Verdict → KeyStore → Prop
  | unknown (h : s.findActive? (Key.hash key) = none) :
      Judged s now key (.rejected .invalidOrRevoked) s
  | inactive (owned : OwnedKey) (h : s.findActive? (Key.hash key) = some owned)
      (hst : owned.account.status ≠ .active) :
      Judged s now key (.rejected (.accountInactive owned.account.status)) s
  | exhausted (owned : OwnedKey) (limit : UInt64) (h : s.findActive? (Key.hash key) = some owned)
      (hst : owned.account.status = .active)
      (hl : (Plan.resolve owned.record.planId).allowance = .finite limit)
      (hle : limit.toNat ≤ owned.record.usage.toNat) :
      Judged s now key (.rejected (.limitReached limit owned.record.usage)) s
  | valid (owned : OwnedKey) (h : s.findActive? (Key.hash key) = some owned)
      (hst : owned.account.status = .active)
      (hroom : ∀ limit, (Plan.resolve owned.record.planId).allowance = .finite limit →
        owned.record.usage.toNat < limit.toNat) :
      Judged s now key
        (.valid ⟨⟨owned.record, Plan.resolve owned.record.planId⟩, nextUsage owned.record.usage⟩)
        (s.edit owned.record.id (·.charged now))

theorem Indexed.find?_of_findActive? {s : KeyStore} (hs : s.Indexed) {hash : String}
    {owned : OwnedKey} (h : s.findActive? hash = some owned) :
    s.byHash.get? hash = some owned.record.id ∧ s.keys.get? owned.record.id = some owned.record := by
  obtain ⟨id, hid, hrec, -, -⟩ := (s.findActive?_eq_some_iff hash owned).mp h
  cases hs.id_eq hrec
  exact ⟨hid, hrec⟩

section Found

variable {s : KeyStore} {raw : Option String} {key : String} {owned : OwnedKey}

theorem validate_of_exhausted (now : Nat) (hk : raw.bind Key.normalize? = some key)
    (hfound : s.findActive? (Key.hash key) = some owned) (hst : owned.account.status = .active)
    (hx : (Plan.resolve owned.record.planId).allowance.isExhausted owned.record.usage = true) :
    s.validate now raw =
      .ok (.rejected (.limitReached (Plan.resolve owned.record.planId).allowance.ceiling
        owned.record.usage), s) := by
  have hexamine := examine_of_exhausted hst hx
  rw [← hfound] at hexamine
  exact s.validate_of_refused now hk hexamine

theorem validate_of_allowed (hs : s.Indexed) (now : Nat) (hk : raw.bind Key.normalize? = some key)
    (hfound : s.findActive? (Key.hash key) = some owned) (hst : owned.account.status = .active)
    (hx : (Plan.resolve owned.record.planId).allowance.isExhausted owned.record.usage = false) :
    s.validate now raw =
      .ok (.valid ⟨⟨owned.record, Plan.resolve owned.record.planId⟩,
        nextUsage owned.record.usage⟩, s.edit owned.record.id (·.charged now)) := by
  have hexamine := examine_of_allowed hst hx
  rw [← hfound] at hexamine
  have hv := s.validate_of_admitted now hk hexamine
  rw [s.charge_of_find now (hs.find?_of_findActive? hfound).2] at hv
  exact hv

end Found

theorem judged {s : KeyStore} (hs : s.Indexed) (now : Nat) {raw : Option String} {key : String}
    (hk : raw.bind Key.normalize? = some key) :
    ∃ verdict s', s.validate now raw = .ok (verdict, s') ∧ Judged s now key verdict s' := by
  cases hfound : s.findActive? (Key.hash key) with
  | none =>
    have hx : examine (s.findActive? (Key.hash key)) = .error .invalidOrRevoked := by
      rw [hfound, examine_none]
    exact ⟨_, _, s.validate_of_refused now hk hx, .unknown hfound⟩
  | some owned =>
    by_cases hst : owned.account.status = .active
    · cases hex : (Plan.resolve owned.record.planId).allowance.isExhausted owned.record.usage with
      | true =>
        obtain ⟨limit, hl, hle⟩ := (Allowance.isExhausted_iff _ _).mp hex
        have hv := validate_of_exhausted now hk hfound hst hex
        rw [hl] at hv
        exact ⟨_, _, hv, .exhausted owned limit hfound hst hl hle⟩
      | false =>
        refine ⟨_, _, validate_of_allowed hs now hk hfound hst hex,
          .valid owned hfound hst fun limit hl => Nat.lt_of_not_le fun hle => ?_⟩
        have hex' := (Allowance.isExhausted_iff _ owned.record.usage).mpr ⟨limit, hl, hle⟩
        cases hex.symm.trans hex'
    · have hx := examine_of_inactive hst
      rw [← hfound] at hx
      exact ⟨_, _, s.validate_of_refused now hk hx, .inactive owned hfound hst⟩

namespace Judged

variable {s s' : KeyStore} {now : Nat} {key : String} {verdict : Verdict}

theorem ne_keyRequired (hj : Judged s now key verdict s') : verdict ≠ .rejected .keyRequired := by
  cases hj <;> simp

theorem unknown_iff (hj : Judged s now key verdict s') :
    verdict = .rejected .invalidOrRevoked ↔ s.findActive? (Key.hash key) = none := by
  cases hj with
  | unknown h => simp [h]
  | inactive owned h | exhausted owned limit h | valid owned h => simp [h]

theorem inactive_iff (hj : Judged s now key verdict s') (status : AccountStatus) :
    verdict = .rejected (.accountInactive status) ↔ status ≠ .active ∧
      ∃ owned, s.findActive? (Key.hash key) = some owned ∧ owned.account.status = status := by
  cases hj with
  | unknown h => simp [h]
  | inactive owned h hst =>
    simp only [h, Verdict.rejected.injEq, Rejection.accountInactive.injEq, Option.some.injEq,
      exists_eq_left']
    constructor
    · rintro rfl
      exact ⟨hst, rfl⟩
    · exact fun hs => hs.2
  | exhausted owned limit h hst | valid owned h hst =>
    simp only [h, Verdict.rejected.injEq, reduceCtorEq, Option.some.injEq, exists_eq_left', hst,
      false_iff]
    rintro ⟨hne, rfl⟩
    exact hne rfl

theorem limitReached_iff (hj : Judged s now key verdict s') (limit usage : UInt64) :
    verdict = .rejected (.limitReached limit usage) ↔
      ∃ owned, s.findActive? (Key.hash key) = some owned ∧ owned.account.status = .active ∧
        (Plan.resolve owned.record.planId).allowance = .finite limit ∧
        owned.record.usage = usage ∧ limit.toNat ≤ usage.toNat := by
  cases hj with
  | unknown h => simp [h]
  | inactive owned h hst => simp [h, hst]
  | exhausted owned limit' h hst hl hle =>
    simp only [h, Verdict.rejected.injEq, Rejection.limitReached.injEq, Option.some.injEq,
      exists_eq_left', hst, true_and, hl, Allowance.finite.injEq]
    constructor
    · rintro ⟨rfl, rfl⟩
      exact ⟨rfl, rfl, hle⟩
    · exact fun hs => ⟨hs.1, hs.2.1⟩
  | valid owned h hst hroom =>
    simp only [h, reduceCtorEq, Option.some.injEq, exists_eq_left', hst, true_and, false_iff]
    rintro ⟨hl, rfl, hle⟩
    exact Nat.not_lt_of_le hle (hroom limit hl)

theorem valid_iff (hj : Judged s now key verdict s') :
    (∃ call, verdict = .valid call) ↔
      ∃ owned, s.findActive? (Key.hash key) = some owned ∧ owned.account.status = .active ∧
        ∀ limit, (Plan.resolve owned.record.planId).allowance = .finite limit →
          owned.record.usage.toNat < limit.toNat := by
  cases hj with
  | unknown h => simp [h]
  | inactive owned h hst => simp [h, hst]
  | exhausted owned limit h hst hl hle =>
    simp only [h, reduceCtorEq, exists_false, Option.some.injEq, exists_eq_left', hst, true_and,
      false_iff]
    exact fun hroom => Nat.not_lt_of_le hle (hroom limit hl)
  | valid owned h hst hroom =>
    simp only [h, Verdict.valid.injEq, exists_eq', Option.some.injEq, exists_eq_left', hst,
      true_and, true_iff]
    exact hroom

end Judged

end KeyStore

end MempoolGate
