import MempoolGate.Proofs.List
import MempoolGate.Proofs.Quota.Verdict
import Mathlib.Data.List.Infix

namespace MempoolGate.KeyStore

/-- How far a call has got: its two steps are the look-up with the checks, and the charge. -/
inductive Phase
  | waiting
  | admitted (admission : Admission)
  | answered (answer : Except GatewayError Verdict)

namespace Phase

def next (digest : String) (now : Nat) (s : KeyStore) : Phase → Phase × KeyStore
  | waiting =>
    match examine (s.findActive? digest) with
    | .error reason => (answered (.ok (.rejected reason)), s)
    | .ok admission => (admitted admission, s)
  | admitted admission =>
    match s.charge now admission.record.id with
    | .error e => (answered (.error e), s)
    | .ok (usage, s') => (answered (.ok (.valid ⟨admission, usage⟩)), s')
  | answered answer => (answered answer, s)

def isAdmitted : Phase → Bool
  | admitted _ => true
  | _ => false

def charged? : Phase → Option Nat
  | answered (.ok (.valid call)) => some call.usageAfter.toNat
  | _ => none

/-- A call that nothing interrupts is answered as `validate` answers, and leaves the same store. -/
theorem next_next (s : KeyStore) (now : Nat) {raw : Option String} {key : String}
    (hk : raw.bind Key.normalize? = some key) :
    let (phase, s') := waiting.next (Key.hash key) now s
    phase.next (Key.hash key) now s' =
      (answered ((s.validate now raw).map (·.1)), s.afterResult (s.validate now raw)) := by
  cases hx : examine (s.findActive? (Key.hash key)) with
  | error reason =>
    rw [s.validate_of_refused now hk hx]
    simp only [next, hx]
    rfl
  | ok admission =>
    rw [s.validate_of_admitted now hk hx]
    simp only [next, hx]
    cases s.charge now admission.record.id <;> rfl

end Phase

structure Contest where
  store : KeyStore
  calls : List Phase

inductive Turn
  | advance (call now : Nat)
  | revoke (id : Uuid)
  | setAccountStatus (id : Uuid) (status : AccountStatus)

namespace Contest

def start (s : KeyStore) (calls : Nat) : Contest :=
  ⟨s, List.replicate calls .waiting⟩

def turn (digest : String) (c : Contest) : Turn → Contest
  | .advance call now =>
    match c.calls[call]? with
    | none => c
    | some phase =>
      let (phase', s') := phase.next digest now c.store
      ⟨s', c.calls.set call phase'⟩
  | .revoke id => { c with store := c.store.revoke id }
  | .setAccountStatus id status => { c with store := c.store.setAccountStatus id status }

def run (digest : String) (c : Contest) (turns : List Turn) : Contest :=
  turns.foldl (turn digest) c

def inFlight (c : Contest) : Nat :=
  c.calls.countP Phase.isAdmitted

def charges (c : Contest) : List Nat :=
  c.calls.filterMap Phase.charged?

theorem run_append (digest : String) (c : Contest) (turns more : List Turn) :
    c.run digest (turns ++ more) = (c.run digest turns).run digest more :=
  List.foldl_append

theorem run_concat (digest : String) (c : Contest) (turns : List Turn) (turn : Turn) :
    c.run digest (turns ++ [turn]) = (c.run digest turns).turn digest turn :=
  run_append digest c turns [turn]

theorem charges_perm {s : KeyStore} {calls rest : List Phase} {phase : Phase}
    (h : calls.Perm (phase :: rest)) :
    (Contest.mk s calls).charges.Perm (phase.charged?.toList ++ rest.filterMap Phase.charged?) := by
  rw [← filterMap_cons_toList]
  exact h.filterMap Phase.charged?

theorem inFlight_eq {s : KeyStore} {calls rest : List Phase} {phase : Phase}
    (h : calls.Perm (phase :: rest)) :
    (Contest.mk s calls).inFlight =
      rest.countP Phase.isAdmitted + if phase.isAdmitted = true then 1 else 0 := by
  unfold inFlight
  rw [h.countP_eq, List.countP_cons]

end Contest

/-- The digest leads to a key with this limit and this many calls counted. -/
structure Counts (s : KeyStore) (digest : String) (id : Uuid) (limit : UInt64) (usage : Nat) :
    Prop where
  byHash : s.byHash.get? digest = some id
  record : ∃ record, s.keys.get? id = some record ∧ record.id = id ∧
    (Plan.resolve record.planId).allowance = .finite limit ∧ record.usage.toNat = usage

namespace Counts

variable {s : KeyStore} {digest : String} {id : Uuid} {limit : UInt64} {usage : Nat}

theorem edit (h : Counts s digest id limit usage) (id' : Uuid) {f : KeyRecord → KeyRecord}
    (hf : ∀ record : KeyRecord, record.Kept (f record))
    (hu : ∀ record, (f record).usage = record.usage) : Counts (s.edit id' f) digest id limit usage := by
  obtain ⟨hid, record, hrec, hself, hplan, husage⟩ := h
  refine ⟨hid, ?_⟩
  by_cases he : id' = id
  · subst id'
    refine ⟨f record, by simp [KeyStore.edit, Table.get?_modify, hrec], ?_, ?_, ?_⟩
    · exact (hf record).id.trans hself
    · rw [(hf record).planId]
      exact hplan
    · rw [hu]
      exact husage
  · exact ⟨record, (Table.get?_modify_of_ne _ he _).trans hrec, hself, hplan, husage⟩

theorem charge (h : Counts s digest id limit usage) (now : Nat) :
    ∃ after s', s.charge now id = .ok (after, s') ∧ after.toNat = min (usage + 1) (UInt64.size - 1) ∧
      Counts s' digest id limit (min (usage + 1) (UInt64.size - 1)) := by
  obtain ⟨hid, record, hrec, hself, hplan, husage⟩ := h
  refine ⟨_, _, s.charge_of_find now hrec, ?_, hid, record.charged now, ?_, hself, hplan, ?_⟩
  · rw [toNat_nextUsage, husage]
  · simp [KeyStore.edit, Table.get?_modify, hrec]
  · simp only [KeyRecord.charged, toNat_nextUsage, husage]

theorem admitted (h : Counts s digest id limit usage) {admission : Admission}
    (hx : examine (s.findActive? digest) = .ok admission) :
    admission.record.id = id ∧ usage < limit.toNat := by
  obtain ⟨hid, record, hrec, hself, hplan, rfl⟩ := h
  obtain ⟨owned, hfound, -, hroom, rfl⟩ := (examine_eq_ok_iff _ _).mp hx
  obtain ⟨id', hid', hrec', -, -⟩ := (s.findActive?_eq_some_iff _ _).mp hfound
  cases hid.symm.trans hid'
  cases hrec.symm.trans hrec'
  refine ⟨hself, Nat.lt_of_not_le fun hle => ?_⟩
  have hex := (Allowance.isExhausted_iff _ _).mpr ⟨limit, hplan, hle⟩
  cases hroom.symm.trans hex

end Counts

/-- What holds of a contest at every moment: the count is what it was at first and the charges since,
as far as the counter goes, and with the calls still to be charged it stays within the bound. -/
structure Balanced (digest : String) (id : Uuid) (limit : UInt64) (first bound : Nat) (c : Contest) :
    Prop where
  counts : Counts c.store digest id limit (min (first + c.charges.length) (UInt64.size - 1))
  room : first + c.charges.length + c.inFlight + 1 ≤ limit.toNat + bound
  admitted : ∀ admission, .admitted admission ∈ c.calls → admission.record.id = id
  answered : ∀ e, .answered (.error e) ∉ c.calls
  charges : c.charges.Perm
    ((List.range' (first + 1) c.charges.length).map (min · (UInt64.size - 1)))

namespace Balanced

variable {digest : String} {id : Uuid} {limit : UInt64} {first bound : Nat} {c : Contest}

theorem of_charges_perm (hb : Balanced digest id limit first bound c) {c' : Contest}
    (hcounts : Counts c'.store digest id limit (min (first + c.charges.length) (UInt64.size - 1)))
    (hcharges : c'.charges.Perm c.charges)
    (hroom : first + c.charges.length + c'.inFlight + 1 ≤ limit.toNat + bound)
    (hadmitted : ∀ admission, .admitted admission ∈ c'.calls → admission.record.id = id)
    (hanswered : ∀ e, .answered (.error e) ∉ c'.calls) :
    Balanced digest id limit first bound c' := by
  have hlength := hcharges.length_eq
  refine ⟨?_, ?_, hadmitted, hanswered, ?_⟩
  · rwa [hlength]
  · rwa [hlength]
  · rw [hlength]
    exact hcharges.trans hb.charges

theorem set_uncharged (hb : Balanced digest id limit first bound c) {call : Nat} {phase phase' : Phase}
    (hcall : c.calls[call]? = some phase) (hnone : phase.charged? = none)
    (hnone' : phase'.charged? = none)
    (hroom : first + c.charges.length + (Contest.mk c.store (c.calls.set call phase')).inFlight + 1 ≤
      limit.toNat + bound)
    (hadmitted : ∀ admission, phase' = .admitted admission → admission.record.id = id)
    (hanswered : ∀ e, phase' ≠ .answered (.error e)) :
    Balanced digest id limit first bound ⟨c.store, c.calls.set call phase'⟩ := by
  obtain ⟨rest, hperm, hset⟩ := exists_rest hcall
  have hrest : ∀ p ∈ rest, p ∈ c.calls := fun p hp => hperm.mem_iff.mpr (List.mem_cons_of_mem _ hp)
  refine hb.of_charges_perm hb.counts ?_ hroom ?_ ?_
  · have hbefore : c.charges.Perm _ := Contest.charges_perm hperm
    have hafter := Contest.charges_perm (s := c.store) (hset phase')
    rw [hnone] at hbefore
    rw [hnone'] at hafter
    exact hafter.trans hbefore.symm
  · intro admission hmem
    rcases List.mem_cons.mp ((hset phase').mem_iff.mp hmem) with he | hmem
    · exact hadmitted admission he.symm
    · exact hb.admitted admission (hrest _ hmem)
  · intro e hmem
    rcases List.mem_cons.mp ((hset phase').mem_iff.mp hmem) with he | hmem
    · exact hanswered e he.symm
    · exact hb.answered e (hrest _ hmem)

/-- A call passes the checks with a call left, so that it still fits within the bound. -/
theorem advance_waiting (hb : Balanced digest id limit first bound c) {call : Nat} (now : Nat)
    (hcall : c.calls[call]? = some .waiting)
    (hflight : (c.turn digest (.advance call now)).inFlight ≤ bound) :
    Balanced digest id limit first bound (c.turn digest (.advance call now)) := by
  obtain ⟨rest, hperm, hset⟩ := exists_rest hcall
  have hbefore : c.inFlight = _ := Contest.inFlight_eq hperm
  cases hx : examine (c.store.findActive? digest) with
  | error reason =>
    simp only [Contest.turn, hcall, Phase.next, hx] at hflight ⊢
    refine hb.set_uncharged hcall rfl rfl ?_ (by simp) (by simp)
    rw [Contest.inFlight_eq (hset _)]
    have hroom := hb.room
    rw [hbefore] at hroom
    exact hroom
  | ok admission =>
    obtain ⟨hid, hlt⟩ := hb.counts.admitted hx
    simp only [Contest.turn, hcall, Phase.next, hx] at hflight ⊢
    refine hb.set_uncharged hcall rfl rfl ?_ (by rintro _ ⟨⟩; exact hid) (by simp)
    have hlimit := limit.toNat_lt
    have hsize : UInt64.size = 2 ^ 64 := rfl
    omega

theorem advance_admitted (hb : Balanced digest id limit first bound c) {call : Nat} (now : Nat)
    {admission : Admission} (hcall : c.calls[call]? = some (.admitted admission)) :
    Balanced digest id limit first bound (c.turn digest (.advance call now)) := by
  obtain ⟨rest, hperm, hset⟩ := exists_rest hcall
  have hid := hb.admitted admission (List.mem_of_getElem? hcall)
  obtain ⟨after, s', hcharge, hafter, hcounts⟩ := hb.counts.charge now
  rw [← hid] at hcharge
  simp only [Contest.turn, hcall, Phase.next, hcharge]
  have hold : c.charges.Perm _ := Contest.charges_perm hperm
  have hnew := Contest.charges_perm (s := s')
    (hset (.answered (.ok (.valid ⟨admission, after⟩))))
  simp only [Phase.charged?, Option.toList_none, Option.toList_some, List.nil_append,
    List.singleton_append] at hold hnew
  have hflight : c.inFlight = _ := Contest.inFlight_eq hperm
  have hflight' := Contest.inFlight_eq (s := s')
    (hset (.answered (.ok (.valid ⟨admission, after⟩))))
  simp only [Phase.isAdmitted, if_true, Bool.false_eq_true, if_false] at hflight hflight'
  have hlength := hnew.length_eq
  rw [List.length_cons, ← hold.length_eq] at hlength
  -- the counter stays at its end, while the charges go on being counted here
  have hcount : min (min (first + c.charges.length) (UInt64.size - 1) + 1) (UInt64.size - 1) =
      min (first + (c.charges.length + 1)) (UInt64.size - 1) := by omega
  rw [hcount] at hafter hcounts
  have hrest : ∀ p ∈ rest, p ∈ c.calls := fun p hp => hperm.mem_iff.mpr (List.mem_cons_of_mem _ hp)
  refine ⟨?_, ?_, ?_, ?_, ?_⟩
  · rw [hlength]
    exact hcounts
  · have hroom := hb.room
    omega
  · intro admission' hmem
    rcases List.mem_cons.mp ((hset _).mem_iff.mp hmem) with he | hmem
    · cases he
    · exact hb.admitted admission' (hrest _ hmem)
  · intro e hmem
    rcases List.mem_cons.mp ((hset _).mem_iff.mp hmem) with he | hmem
    · cases he
    · exact hb.answered e (hrest _ hmem)
  · rw [hlength, List.range'_1_concat, List.map_append, List.map_singleton]
    have hlast : min (first + 1 + c.charges.length) (UInt64.size - 1) = after.toNat := by omega
    rw [hlast]
    refine hnew.trans ?_
    refine (List.Perm.cons _ (hold.symm.trans hb.charges)).trans ?_
    exact (List.perm_append_singleton _ _).symm

theorem turn (hb : Balanced digest id limit first bound c) (t : Turn)
    (hflight : (c.turn digest t).inFlight ≤ bound) :
    Balanced digest id limit first bound (c.turn digest t) := by
  cases t with
  | revoke id' =>
    have hcounts := hb.counts.edit id' (f := fun record => { record with active := false })
      (fun _ => ⟨rfl, rfl, rfl, rfl⟩) (fun _ => rfl)
    exact hb.of_charges_perm hcounts (.refl _) hb.room hb.admitted hb.answered
  | setAccountStatus id' status =>
    have hcounts : Counts (c.store.setAccountStatus id' status) digest id limit _ :=
      ⟨hb.counts.byHash, hb.counts.record⟩
    exact hb.of_charges_perm hcounts (.refl _) hb.room hb.admitted hb.answered
  | advance call now =>
    cases hcall : c.calls[call]? with
    | none =>
      simp only [Contest.turn, hcall]
      exact hb
    | some phase =>
      cases phase with
      | waiting => exact hb.advance_waiting now hcall hflight
      | admitted admission => exact hb.advance_admitted now hcall
      | answered answer =>
        obtain ⟨hlt, hphase⟩ := List.getElem?_eq_some_iff.mp hcall
        simp only [Contest.turn, hcall, Phase.next]
        rw [← hphase, List.set_getElem_self]
        exact hb

theorem run {turns : List Turn} (hb : Balanced digest id limit first bound c)
    (hflight : ∀ before, before <+: turns → (c.run digest before).inFlight ≤ bound) :
    Balanced digest id limit first bound (c.run digest turns) := by
  induction turns generalizing c with
  | nil => exact hb
  | cons t turns ih =>
    have ht : [t] <+: t :: turns := List.prefix_append [t] turns
    refine ih (hb.turn t (hflight [t] ht)) fun before hbefore => ?_
    exact hflight (t :: before) (List.cons_prefix_cons.mpr ⟨rfl, hbefore⟩)

theorem start {s : KeyStore} {usage : Nat} (hcounts : Counts s digest id limit usage) (calls : Nat)
    (hu : usage ≤ limit.toNat) (hbound : 1 ≤ bound) :
    Balanced digest id limit usage bound (Contest.start s calls) := by
  have hcharges : (Contest.start s calls).charges = [] := by
    simp [Contest.charges, Contest.start, Phase.charged?]
  have hflight : (Contest.start s calls).inFlight = 0 := by
    simp [Contest.inFlight, Contest.start, Phase.isAdmitted]
  have hmin : min usage (UInt64.size - 1) = usage := by
    have hlimit := limit.toNat_lt
    have hsize : UInt64.size = 2 ^ 64 := rfl
    omega
  refine ⟨?_, ?_, ?_, ?_, ?_⟩
  · rw [hcharges, List.length_nil, Nat.add_zero, hmin]
    exact hcounts
  · rw [hcharges, hflight, List.length_nil]
    omega
  · intro admission hmem
    cases List.eq_of_mem_replicate hmem
  · intro e hmem
    cases List.eq_of_mem_replicate hmem
  · rw [hcharges]
    exact .refl []

end Balanced

namespace Contest

variable {digest : String} {c : Contest} {call : Nat} {answer : Except GatewayError Verdict}

theorem answered_turn (h : c.calls[call]? = some (.answered answer)) (t : Turn) :
    (c.turn digest t).calls[call]? = some (.answered answer) := by
  cases t with
  | revoke id | setAccountStatus id status => exact h
  | advance call' now =>
    by_cases he : call' = call
    · subst call'
      obtain ⟨hlt, -⟩ := List.getElem?_eq_some_iff.mp h
      simp only [turn, h, Phase.next]
      exact List.getElem?_set_self hlt
    · cases hcall : c.calls[call']? with
      | none =>
        simp only [turn, hcall]
        exact h
      | some phase =>
        simp only [turn, hcall]
        rw [List.getElem?_set_ne he]
        exact h

theorem answered_run (h : c.calls[call]? = some (.answered answer)) (turns : List Turn) :
    (c.run digest turns).calls[call]? = some (.answered answer) := by
  induction turns generalizing c with
  | nil => exact h
  | cons t turns ih => exact ih (answered_turn h t)

/-- No step of a call that is turned away in the end changes the store. -/
theorem store_turn_of_rejected {now : Nat} {after : List Turn} {reason : Rejection}
    (h : ((c.turn digest (.advance call now)).run digest after).calls[call]? =
      some (.answered (.ok (.rejected reason)))) :
    (c.turn digest (.advance call now)).store = c.store := by
  cases hcall : c.calls[call]? with
  | none => simp only [turn, hcall]
  | some phase =>
    obtain ⟨hlt, -⟩ := List.getElem?_eq_some_iff.mp hcall
    cases phase with
    | waiting =>
      cases hx : examine (c.store.findActive? digest) <;> simp only [turn, hcall, Phase.next, hx]
    | answered answer => simp only [turn, hcall, Phase.next]
    | admitted admission =>
      cases hcharge : c.store.charge now admission.record.id with
      | error e => simp only [turn, hcall, Phase.next, hcharge]
      | ok result =>
        -- A charged call is answered with success and stays so.
        obtain ⟨usage, s'⟩ := result
        have hvalid : (c.turn digest (.advance call now)).calls[call]? =
            some (.answered (.ok (.valid ⟨admission, usage⟩))) := by
          simp only [turn, hcall, Phase.next, hcharge]
          exact List.getElem?_set_self hlt
        cases h.symm.trans (answered_run hvalid after)

end Contest

/-- Calls of one key over one store, at most `bound` of them between look-up and charge at a time, with
keys revoked and accounts changed meanwhile. Neither the count nor the calls that are charged go past the
limit by `bound` calls; the count is what it was at first and the charges since, and the charged calls
are told the counts from the first one on, each once, as long as they fit into 64 bits. Every call is
answered with a verdict, and one that is turned away changes nothing. -/
theorem run_contest (s : KeyStore) (key : String) (record : KeyRecord) (limit : UInt64)
    (calls bound : Nat) (turns : List Turn)
    (hid : s.byHash.get? (Key.hash key) = some record.id)
    (hrec : s.find? record.id = some record)
    (hplan : (Plan.resolve record.planId).allowance = .finite limit)
    (hu : record.usage.toNat ≤ limit.toNat) (hbound : 1 ≤ bound)
    (hflight : ∀ before, before <+: turns →
      ((Contest.start s calls).run (Key.hash key) before).inFlight ≤ bound) :
    let last := (Contest.start s calls).run (Key.hash key) turns
    ∃ final, last.store.find? record.id = some final ∧
      final.usage.toNat ≤ limit.toNat + bound - 1 ∧
      record.usage.toNat + last.charges.length ≤ limit.toNat + bound - 1 ∧
      final.usage.toNat =
        min (record.usage.toNat + last.charges.length) (UInt64.size - 1) ∧
      (record.usage.toNat + last.charges.length < UInt64.size →
        final.usage.toNat = record.usage.toNat + last.charges.length ∧
        last.charges.Nodup ∧
        last.charges.Perm (List.range' (record.usage.toNat + 1) last.charges.length)) ∧
      (∀ e, .answered (.error e) ∉ last.calls) ∧
      ∀ call reason, last.calls[call]? = some (.answered (.ok (.rejected reason))) →
        ∀ before now after, turns = before ++ .advance call now :: after →
          ((Contest.start s calls).run (Key.hash key) (before ++ [.advance call now])).store =
            ((Contest.start s calls).run (Key.hash key) before).store := by
  intro last
  have hstart : Counts s (Key.hash key) record.id limit record.usage.toNat :=
    ⟨hid, record, hrec, rfl, hplan, rfl⟩
  have hb : Balanced (Key.hash key) record.id limit record.usage.toNat bound last :=
    (Balanced.start hstart calls hu hbound).run hflight
  obtain ⟨final, hfinal, -, -, husage⟩ := hb.counts.record
  have hroom := hb.room
  refine ⟨final, hfinal, by omega, by omega, husage, ?_, hb.answered, ?_⟩
  · intro hfit
    have hperm : last.charges.Perm (List.range' (record.usage.toNat + 1) last.charges.length) := by
      refine hb.charges.trans (List.Perm.of_eq ?_)
      refine (List.map_congr_left fun count hcount => ?_).trans (List.map_id _)
      have hmem := List.mem_range'_1.mp hcount
      simp only [id_eq]
      omega
    exact ⟨by omega, hperm.nodup_iff.mpr List.nodup_range', hperm⟩
  · rintro call reason hrejected before now after rfl
    have hlast : ((((Contest.start s calls).run (Key.hash key) before).turn (Key.hash key)
        (.advance call now)).run (Key.hash key) after).calls[call]? =
          some (.answered (.ok (.rejected reason))) := by
      rw [← Contest.run_concat, ← Contest.run_append, List.append_assoc]
      exact hrejected
    rw [Contest.run_concat]
    exact Contest.store_turn_of_rejected hlast

def nearlyExhausted : KeyRecord :=
  { id := .filled 16 7, accountId := .filled 16 1, name := "ci", keyHash := Key.hash "sg_last",
    visible := "sg_", planId := "demo", usage := 99 }

/-- Both calls pass the checks before either is charged; a third comes after. -/
def overrun : List Turn :=
  [.advance 0 1, .advance 1 2, .revoke (.filled 16 9), .advance 1 3, .advance 0 4, .advance 2 5]

theorem run_contest_overrun :
    let s := (empty.hold nearlyExhausted).upsertAccount ⟨.filled 16 1, "a@example.com", .active⟩
    s.byHash.get? (Key.hash "sg_last") = some nearlyExhausted.id ∧
      s.find? nearlyExhausted.id = some nearlyExhausted ∧
      (Plan.resolve nearlyExhausted.planId).allowance = .finite 100 ∧
      (∀ before, before <+: overrun →
        ((Contest.start s 3).run (Key.hash "sg_last") before).inFlight ≤ 2) ∧
      ∃ final, ((Contest.start s 3).run (Key.hash "sg_last") overrun).store.find?
          nearlyExhausted.id = some final ∧
        final.usage.toNat = 101 ∧ final.usage.toNat ≤ 100 + 2 - 1 := by
  intro s
  have hid : s.byHash.get? (Key.hash "sg_last") = some nearlyExhausted.id := by
    decide +kernel
  have hrec : s.find? nearlyExhausted.id = some nearlyExhausted := by decide +kernel
  have hplan : (Plan.resolve nearlyExhausted.planId).allowance = .finite 100 := by decide
  have hflight : ∀ before, before <+: overrun →
      ((Contest.start s 3).run (Key.hash "sg_last") before).inFlight ≤ 2 := by
    have hall : ∀ before ∈ overrun.inits,
        ((Contest.start s 3).run (Key.hash "sg_last") before).inFlight ≤ 2 := by decide +kernel
    exact fun before hbefore => hall before ((List.mem_inits before overrun).mpr hbefore)
  have hcharges : ((Contest.start s 3).run (Key.hash "sg_last") overrun).charges = [101, 100] := by
    decide +kernel
  obtain ⟨final, hfinal, hle, -, -, hexact, -⟩ := run_contest s "sg_last" nearlyExhausted 100 3 2
    overrun hid hrec hplan (by decide) (by decide) hflight
  rw [hcharges] at hexact
  have husage := (hexact (by decide)).1
  exact ⟨hid, hrec, hplan, hflight, final, hfinal, husage, hle⟩

end MempoolGate.KeyStore
