import MempoolGate.Proofs.Plan
import MempoolGate.Proofs.Quota.Verdict
import Mathlib.Logic.Function.Iterate

namespace MempoolGate

namespace KeyOp

def IsCall (key : String) : KeyOp → Prop
  | validate _ raw => raw.bind Key.normalize? = some key
  | _ => False

/-- An operation on other records and other accounts. A new record comes under an id of its own. -/
def Spares (record : KeyRecord) : KeyOp → Prop
  | register _ | insert _ => True
  | charge _ id | revoke id | setUsage id _ => id ≠ record.id
  | upsertAccount account => account.id ≠ record.accountId
  | setAccountStatus id _ => id ≠ record.accountId
  | validate _ raw => ∀ key, raw.bind Key.normalize? = some key → Key.hash key ≠ record.keyHash

theorem Spares.of_kept {a b : KeyRecord} (h : a.Kept b) {op : KeyOp} (hop : op.Spares a) :
    op.Spares b := by
  cases op with
  | register | insert => exact trivial
  | charge | revoke | setUsage | upsertAccount | setAccountStatus | validate =>
    simpa only [Spares, h.id, h.accountId, h.keyHash] using hop

def answer? (key : String) (s : KeyStore) : KeyOp → Option (Except GatewayError Verdict)
  | validate now raw =>
    if raw.bind Key.normalize? = some key then some ((s.validate now raw).map (·.1)) else none
  | _ => none

end KeyOp

def Allowance.spend (a : Allowance) (usage : UInt64) : UInt64 :=
  if a.isExhausted usage = true then usage else nextUsage usage

theorem Allowance.toNat_spend_finite (limit usage : UInt64) :
    ((finite limit).spend usage).toNat =
      min (usage.toNat + 1) (max limit.toNat usage.toNat) := by
  have hlimit := limit.toNat_lt
  have hsize : UInt64.size = 2 ^ 64 := rfl
  unfold spend
  by_cases h : limit.toNat ≤ usage.toNat
  · rw [if_pos (by simpa [isExhausted] using h)]
    omega
  · rw [if_neg (by simpa [isExhausted] using h), toNat_nextUsage]
    omega

theorem Allowance.toNat_iterate_spend_finite (limit usage : UInt64) (n : Nat) :
    ((finite limit).spend^[n] usage).toNat =
      min (usage.toNat + n) (max limit.toNat usage.toNat) := by
  induction n with
  | zero =>
    rw [Function.iterate_zero_apply]
    omega
  | succ n ih =>
    rw [Function.iterate_succ_apply', toNat_spend_finite, ih]
    omega

theorem Allowance.isExhausted_iterate_spend (limit usage : UInt64) (n : Nat) :
    (finite limit).isExhausted ((finite limit).spend^[n] usage) = false ↔
      n < limit.toNat - usage.toNat := by
  simp only [isExhausted, toNat_iterate_spend_finite, decide_eq_false_iff_not]
  omega

theorem Allowance.toNat_iterate_spend_unlimited (usage : UInt64) (n : Nat) :
    (unlimited.spend^[n] usage).toNat = min (usage.toNat + n) (UInt64.size - 1) := by
  induction n with
  | zero =>
    have husage := usage.toNat_lt
    have hsize : UInt64.size = 2 ^ 64 := rfl
    rw [Function.iterate_zero_apply]
    omega
  | succ n ih =>
    have hspend : unlimited.spend (unlimited.spend^[n] usage) =
        nextUsage (unlimited.spend^[n] usage) := rfl
    rw [Function.iterate_succ_apply', hspend, toNat_nextUsage, ih]
    omega

namespace KeyStore

def answers (key : String) : KeyStore → List KeyOp → List (Except GatewayError Verdict)
  | _, [] => []
  | s, op :: ops => (op.answer? key s).toList ++ answers key (s.after op) ops

/-- What a call of the key is answered when `usage` calls are counted before it. -/
inductive Answers (plan : Plan) (record : KeyRecord) (usage : UInt64) :
    Except GatewayError Verdict → Prop
  | exhausted (hx : plan.allowance.isExhausted usage = true) :
      Answers plan record usage (.ok (.rejected (.limitReached plan.allowance.ceiling usage)))
  | accepted (hx : plan.allowance.isExhausted usage = false) (seen : KeyRecord)
      (hkept : record.Kept seen) (husage : seen.usage = usage) :
      Answers plan record usage (.ok (.valid ⟨⟨seen, plan⟩, nextUsage usage⟩))

theorem Answers.of_kept {plan : Plan} {a b : KeyRecord} (h : a.Kept b) {usage : UInt64}
    {answer : Except GatewayError Verdict} (ha : Answers plan b usage answer) :
    Answers plan a usage answer := by
  cases ha with
  | exhausted hx => exact .exhausted hx
  | accepted hx seen hkept husage => exact .accepted hx seen (h.trans hkept) husage

def isAccepted : Except GatewayError Verdict → Bool
  | .ok (.valid _) => true
  | _ => false

theorem Answers.isAccepted_iff {plan : Plan} {record : KeyRecord} {usage : UInt64}
    {answer : Except GatewayError Verdict} (ha : Answers plan record usage answer) :
    isAccepted answer = true ↔ plan.allowance.isExhausted usage = false := by
  cases ha with
  | exhausted hx => simp [isAccepted, hx]
  | accepted hx => simp [isAccepted, hx]

theorem Answers.finite {plan : Plan} {limit : UInt64} (hlimit : plan.allowance = .finite limit)
    {record : KeyRecord} {i : Nat} {answer : Except GatewayError Verdict}
    (ha : Answers plan record (plan.allowance.spend^[i] record.usage) answer) :
    if i < limit.toNat - record.usage.toNat then
      ∃ call, answer = .ok (.valid call) ∧
        call.record.usage.toNat = record.usage.toNat + i ∧
        call.usageAfter.toNat = record.usage.toNat + (i + 1) ∧
        call.headers = [("x-ratelimit-limit", Text.decimal limit.toNat),
          ("x-ratelimit-remaining", Text.decimal (limit.toNat - record.usage.toNat - (i + 1))),
          ("x-ratelimit-plan", plan.label)]
    else
      ∃ usage, answer = .ok (.rejected (.limitReached limit usage)) ∧
        usage.toNat = max limit.toNat record.usage.toNat := by
  have hleft := Allowance.isExhausted_iterate_spend limit record.usage i
  have husage := Allowance.toNat_iterate_spend_finite limit record.usage i
  rw [← hlimit] at hleft husage
  cases ha with
  | exhausted hx =>
    have hi : ¬ i < limit.toNat - record.usage.toNat := fun hlt =>
      Bool.false_ne_true ((hleft.mpr hlt).symm.trans hx)
    rw [if_neg hi]
    refine ⟨_, by rw [hlimit]; rfl, ?_⟩
    rw [← hlimit, husage]
    omega
  | accepted hx seen hkept hseen =>
    have hi := hleft.mp hx
    have hbefore : seen.usage.toNat = record.usage.toNat + i := by
      rw [hseen, husage]
      omega
    have hlast := limit.toNat_lt
    have hsize : UInt64.size = 2 ^ 64 := rfl
    have hafter : (nextUsage seen.usage).toNat = record.usage.toNat + (i + 1) := by
      rw [toNat_nextUsage, hbefore]
      omega
    rw [hseen] at hafter
    rw [if_pos hi]
    refine ⟨_, rfl, hbefore, hafter, ?_⟩
    simp only [Charged.headers, Charged.remaining, hlimit, Allowance.text,
      Allowance.remainingText, hbefore, Nat.sub_sub, Nat.add_assoc]

theorem Answers.unlimited {plan : Plan} (hunlimited : plan.allowance = .unlimited)
    {record : KeyRecord} {i : Nat} {answer : Except GatewayError Verdict}
    (ha : Answers plan record (plan.allowance.spend^[i] record.usage) answer) :
    ∃ call, answer = .ok (.valid call) ∧
      call.record.usage.toNat = min (record.usage.toNat + i) (UInt64.size - 1) ∧
      call.usageAfter.toNat = min (record.usage.toNat + (i + 1)) (UInt64.size - 1) := by
  have husage := Allowance.toNat_iterate_spend_unlimited record.usage i
  rw [← hunlimited] at husage
  cases ha with
  | exhausted hx =>
    rw [hunlimited] at hx
    cases hx
  | accepted hx seen hkept hseen =>
    refine ⟨_, rfl, by rw [hseen, husage], ?_⟩
    rw [toNat_nextUsage, husage]
    omega

section Calls

variable {s : KeyStore} {key : String} {record : KeyRecord} {account : Account}

theorem findActive?_after_of_spares (hs : s.Indexed) {op : KeyOp} (hfresh : op.IsFresh s)
    (hop : op.Spares record) {hash : String}
    (h : s.findActive? hash = some ⟨record, account⟩) :
    (s.after op).findActive? hash = some ⟨record, account⟩ := by
  have heffect := after_effect s op
  obtain ⟨hid, hrec⟩ := hs.find?_of_findActive? h
  obtain ⟨-, -, -, hactive, haccount⟩ := (findActive?_eq_some_iff _ _ _).mp h
  have htarget : op.target? s ≠ some record.id := by
    cases op with
    | charge now id | revoke id | setUsage id usage => exact fun he => hop (Option.some.inj he)
    | register | insert | upsertAccount | setAccountStatus => simp [KeyOp.target?]
    | validate now raw =>
      intro he
      obtain ⟨owned, howned, hsame⟩ := Option.map_eq_some_iff.mp he
      obtain ⟨key', hk', hfound⟩ := Option.bind_eq_some_iff.mp howned
      obtain ⟨hid', -⟩ := hs.find?_of_findActive? hfound
      rw [hsame] at hid'
      obtain ⟨record', hrec', hhash⟩ := hs.byHash_iff.mp hid'
      cases hrec.symm.trans hrec'
      exact hop key' hk' hhash.symm
  have hwrite : op.account? ≠ some record.accountId := by
    cases op with
    | upsertAccount account' | setAccountStatus id status =>
      exact fun he => hop (Option.some.inj he)
    | register | insert | charge | revoke | setUsage | validate => simp [KeyOp.account?]
  exact (findActive?_eq_some_iff _ _ _).mpr ⟨record.id, heffect.byHash_of_some hid,
    heffect.find?_of_ne hfresh hrec htarget, hactive,
    (heffect.account_of_ne hwrite).trans haccount⟩

theorem answer?_of_spares (hs : s.Indexed) {op : KeyOp} (hop : op.Spares record)
    (h : s.findActive? (Key.hash key) = some ⟨record, account⟩) : op.answer? key s = none := by
  cases op with
  | validate now raw =>
    obtain ⟨hid, hrec⟩ := hs.find?_of_findActive? h
    obtain ⟨record', hrec', hhash⟩ := hs.byHash_iff.mp hid
    cases hrec.symm.trans hrec'
    have hne : raw.bind Key.normalize? ≠ some key := fun hk => hop key hk hhash.symm
    simp only [KeyOp.answer?, if_neg hne]
  | register | insert | charge | revoke | setUsage | upsertAccount | setAccountStatus => rfl

theorem answer_call (hs : s.Indexed) (hactive : account.status = .active) {op : KeyOp}
    (hop : op.IsCall key) (h : s.findActive? (Key.hash key) = some ⟨record, account⟩) :
    ∃ answer record', op.answer? key s = some answer ∧
      Answers (Plan.resolve record.planId) record record.usage answer ∧ record.Kept record' ∧
      record'.usage = (Plan.resolve record.planId).allowance.spend record.usage ∧
      (s.after op).findActive? (Key.hash key) = some ⟨record', account⟩ := by
  cases op with
  | register | insert | charge | revoke | setUsage | upsertAccount | setAccountStatus => cases hop
  | validate now raw =>
    have hk : raw.bind Key.normalize? = some key := hop
    have hanswer : (KeyOp.validate now raw).answer? key s =
        some ((s.validate now raw).map (·.1)) := by
      simp only [KeyOp.answer?, if_pos hk]
    unfold Allowance.spend
    cases hx : (Plan.resolve record.planId).allowance.isExhausted record.usage with
    | true =>
      have hv := validate_of_exhausted now hk h hactive hx
      rw [hv] at hanswer
      refine ⟨_, record, hanswer, .exhausted hx, .refl record, (if_pos rfl).symm, ?_⟩
      simp only [after, hv]
      exact h
    | false =>
      have hv := validate_of_allowed hs now hk h hactive hx
      obtain ⟨hid, hrec⟩ := hs.find?_of_findActive? h
      obtain ⟨-, -, -, hact, haccount⟩ := (findActive?_eq_some_iff _ _ _).mp h
      rw [hv] at hanswer
      refine ⟨_, record.charged now, hanswer, .accepted hx record (.refl record) rfl,
        charged_kept now record, (if_neg (by simp)).symm, ?_⟩
      simp only [after, hv]
      have hedit : (s.edit record.id (·.charged now)).keys.get? record.id =
          some (record.charged now) := by simp [edit, Table.get?_modify, hrec]
      exact (findActive?_eq_some_iff _ _ _).mpr ⟨record.id, hid, hedit, hact, haccount⟩

/-- The calls of a key are answered one by one as its own count goes, whatever lies between them. -/
theorem answers_getElem? {ops : List KeyOp} (hs : s.Indexed) (hfresh : s.FreshRun ops)
    (hactive : account.status = .active) (hops : ∀ op ∈ ops, op.IsCall key ∨ op.Spares record)
    (h : s.findActive? (Key.hash key) = some ⟨record, account⟩) {i : Nat}
    {answer : Except GatewayError Verdict} (hi : (answers key s ops)[i]? = some answer) :
    Answers (Plan.resolve record.planId) record
      ((Plan.resolve record.planId).allowance.spend^[i] record.usage) answer := by
  -- Each call leaves another record, so the induction is over every record that is kept.
  induction ops generalizing s record i with
  | nil => cases hi
  | cons op ops ih =>
    have hs' := (after_effect s op).indexed hfresh.1 hs
    have hrest : ∀ {record' : KeyRecord}, record.Kept record' →
        ∀ op ∈ ops, op.IsCall key ∨ op.Spares record' := fun hkept op hop =>
      (hops op (List.mem_cons_of_mem _ hop)).imp_right (KeyOp.Spares.of_kept hkept)
    rcases hops op List.mem_cons_self with hcall | hspare
    · obtain ⟨first, record', hfirst, hanswer, hkept, husage, hfound⟩ :=
        answer_call hs hactive hcall h
      rw [answers, hfirst] at hi
      cases i with
      | zero =>
        cases hi
        exact hanswer
      | succ i =>
        have hlater := ih hs' hfresh.2 (hrest hkept) hfound hi
        rw [hkept.planId, husage, ← Function.iterate_succ_apply] at hlater
        exact hlater.of_kept hkept
    · rw [answers, answer?_of_spares hs hspare h] at hi
      exact ih hs' hfresh.2 (hrest (.refl record)) (findActive?_after_of_spares hs hfresh.1 hspare h) hi

end Calls

theorem countP_drop_of_getElem? {α : Type} {p : α → Bool} {l : List α} {k : Nat}
    (h : ∀ i a, l[i]? = some a → (p a = true ↔ i < k)) (n : Nat) :
    (l.drop n).countP p = min (l.length - n) (k - n) := by
  induction l generalizing k n with
  | nil => simp
  | cons a l ih =>
    have htail : ∀ i b, l[i]? = some b → (p b = true ↔ i < k - 1) := by
      intro i b hb
      rw [h (i + 1) b hb]
      omega
    cases n with
    | zero =>
      have hrec := ih htail 0
      have ha := h 0 a rfl
      rw [List.drop_zero, List.countP_cons]
      rw [List.drop_zero] at hrec
      rw [hrec, List.length_cons]
      by_cases hp : p a = true
      · rw [if_pos hp]
        have := ha.mp hp
        omega
      · rw [if_neg hp]
        have := mt ha.mpr hp
        omega
    | succ n =>
      rw [List.drop_succ_cons, ih htail n, List.length_cons]
      omega

/-- Calls of an active key of an active account, one after the other and among operations on other keys
and accounts. A plan with a limit accepts as many of them as it leaves and turns away the rest, which
changes nothing; each accepted call is told the count and how many of the calls to come will still be
accepted. A plan without a limit accepts all of them, and its counter stops at the end of 64 bits. -/
theorem answers_run (s : KeyStore) (key planText : String) (record : KeyRecord) (account : Account)
    (ops : List KeyOp) (hs : s.Reachable)
    (hfound : s.findActive? (Key.hash key) = some ⟨record, account⟩)
    (hactive : account.status = .active) (hplan : record.planId = (Plan.resolve planText).id)
    (hfresh : s.FreshRun ops) (hops : ∀ op ∈ ops, op.IsCall key ∨ op.Spares record) :
    (∀ limit, (Plan.resolve planText).allowance = .finite limit →
      ∀ i answer, (answers key s ops)[i]? = some answer →
        if i < limit.toNat - record.usage.toNat then
          ∃ call, answer = .ok (.valid call) ∧
            call.record.usage.toNat = record.usage.toNat + i ∧
            call.usageAfter.toNat = record.usage.toNat + (i + 1) ∧
            call.headers = [("x-ratelimit-limit", Text.decimal limit.toNat),
              ("x-ratelimit-remaining",
                Text.decimal (limit.toNat - record.usage.toNat - (i + 1))),
              ("x-ratelimit-plan", (Plan.resolve planText).label)] ∧
            ((answers key s ops).drop (i + 1)).countP isAccepted =
              min ((answers key s ops).length - (i + 1))
                (limit.toNat - record.usage.toNat - (i + 1))
        else
          ∃ usage, answer = .ok (.rejected (.limitReached limit usage)) ∧
            usage.toNat = max limit.toNat record.usage.toNat) ∧
    ((Plan.resolve planText).allowance = .unlimited →
      ∀ i answer, (answers key s ops)[i]? = some answer →
        ∃ call, answer = .ok (.valid call) ∧
          call.record.usage.toNat = min (record.usage.toNat + i) (UInt64.size - 1) ∧
          call.usageAfter.toNat = min (record.usage.toNat + (i + 1)) (UInt64.size - 1)) ∧
    ∀ before now raw after limit usage s', ops = before ++ .validate now raw :: after →
      (s.run before).validate now raw = .ok (.rejected (.limitReached limit usage), s') →
        s' = s.run before := by
  have hresolve : Plan.resolve record.planId = Plan.resolve planText := by
    rw [hplan, Plan.resolve_id_resolve]
  have hanswers : ∀ i answer, (answers key s ops)[i]? = some answer →
      Answers (Plan.resolve planText) record
        ((Plan.resolve planText).allowance.spend^[i] record.usage) answer := by
    intro i answer hi
    have ha := answers_getElem? hs.indexed hfresh hactive hops hfound hi
    rwa [hresolve] at ha
  refine ⟨fun limit hlimit => ?_, fun hunlimited => ?_, fun before now raw after limit usage s' _ h =>
    eq_of_validate_rejected _ h⟩
  · intro i answer hi
    have haccepted : ∀ i answer, (answers key s ops)[i]? = some answer →
        (isAccepted answer = true ↔ i < limit.toNat - record.usage.toNat) := by
      intro i answer hi
      rw [(hanswers i answer hi).isAccepted_iff, hlimit]
      exact Allowance.isExhausted_iterate_spend limit record.usage i
    have hmore := countP_drop_of_getElem? haccepted (i + 1)
    have hfinite := (hanswers i answer hi).finite hlimit
    by_cases hleft : i < limit.toNat - record.usage.toNat
    · rw [if_pos hleft] at hfinite ⊢
      obtain ⟨call, hcall, hbefore, hafter, hheaders⟩ := hfinite
      exact ⟨call, hcall, hbefore, hafter, hheaders, hmore⟩
    · rw [if_neg hleft] at hfinite ⊢
      exact hfinite
  · exact fun i answer hi => (hanswers i answer hi).unlimited hunlimited

def twoLeft : List KeyOp :=
  [.upsertAccount ⟨.filled 16 1, "a@example.com", .active⟩,
   .register ⟨.filled 16 4, .filled 16 1, " sg_gold", "ci", "GOLD"⟩,
   .setUsage (.filled 16 4) 98]

/-- Three calls of that key with other business between them. -/
def threeCalls : List KeyOp :=
  [.validate 1 (some "sg_gold"), .upsertAccount ⟨.filled 16 2, "b@example.com", .banned⟩,
   .validate 2 (some "sg_gold\n"), .register ⟨.filled 16 5, .filled 16 2, "sg_b", "ci", "pro"⟩,
   .validate 3 (some " sg_gold")]

theorem answers_run_threeCalls :
    (∃ call, (answers "sg_gold" (empty.run twoLeft) threeCalls)[1]? = some (.ok (.valid call)) ∧
        call.usageAfter.toNat = 100) ∧
      ∃ usage, (answers "sg_gold" (empty.run twoLeft) threeCalls)[2]? =
        some (.ok (.rejected (.limitReached 100 usage))) ∧ usage.toNat = 100 := by
  let record : KeyRecord :=
    { id := .filled 16 4, accountId := .filled 16 1, name := "ci", keyHash := Key.hash "sg_gold",
      visible := "sg_", planId := "demo", usage := 98 }
  have hreachable : (empty.run twoLeft).Reachable := ⟨twoLeft, by decide +kernel, rfl⟩
  have hfound : (empty.run twoLeft).findActive? (Key.hash "sg_gold") =
      some ⟨record, ⟨.filled 16 1, "a@example.com", .active⟩⟩ := by decide +kernel
  have hfresh : (empty.run twoLeft).FreshRun threeCalls := by decide +kernel
  have hne : (.filled 16 2 : Uuid) ≠ .filled 16 1 := by decide
  have htrim : ∀ raw ∈ ["sg_gold", "sg_gold\n", " sg_gold"],
      (some raw).bind Key.normalize? = some "sg_gold" := by decide +kernel
  have hops : ∀ op ∈ threeCalls, op.IsCall "sg_gold" ∨ op.Spares record := by
    simp only [threeCalls, List.forall_mem_cons]
    exact ⟨.inl (htrim _ (by simp)), .inr hne, .inl (htrim _ (by simp)), .inr trivial,
      .inl (htrim _ (by simp)), by simp⟩
  have hlength : (answers "sg_gold" (empty.run twoLeft) threeCalls).length = 3 := by
    decide +kernel
  obtain ⟨hfinite, -⟩ := answers_run (empty.run twoLeft) "sg_gold" "GOLD" record
    ⟨.filled 16 1, "a@example.com", .active⟩ threeCalls hreachable hfound rfl (by decide) hfresh hops
  have hplan : (Plan.resolve "GOLD").allowance = .finite 100 := by decide
  have hsecond := hfinite 100 hplan 1 _ (List.getElem?_eq_getElem (by omega))
  have hthird := hfinite 100 hplan 2 _ (List.getElem?_eq_getElem (by omega))
  rw [if_pos (by decide)] at hsecond
  rw [if_neg (by decide)] at hthird
  obtain ⟨call, hcall, -, hafter, -⟩ := hsecond
  obtain ⟨usage, husage, hmax⟩ := hthird
  refine ⟨⟨call, ?_, hafter⟩, usage, ?_, hmax⟩
  · rw [← hcall]
    exact List.getElem?_eq_getElem (by omega)
  · rw [← husage]
    exact List.getElem?_eq_getElem (by omega)

end KeyStore

end MempoolGate
