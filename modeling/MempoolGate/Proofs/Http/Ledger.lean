import MempoolGate.Proofs.Http.Charging
import MempoolGate.Proofs.Quota.Exhaustion

namespace MempoolGate

namespace Verdict

def charged? : Verdict → Option Uuid
  | valid call => some call.record.id
  | rejected _ => none

def refusal? : Verdict → Option RejectionKind
  | valid _ => none
  | rejected reason => some reason.kind

end Verdict

def KeyStore.usageTotal (s : KeyStore) : Nat :=
  (s.keys.values.map (·.usage.toNat)).sum

/-- No counter has come to its end. -/
def KeyStore.HasRoom (s : KeyStore) : Prop :=
  ∀ id record, s.find? id = some record → record.usage.toNat < UInt64.size - 1

theorem Telemetry.record_rejected (t : Telemetry) (reason kind : RejectionKind) :
    (t.record (.rejected reason)).validationsAccepted = t.validationsAccepted ∧
      (t.record (.rejected reason)).rejections kind =
        t.rejections kind + UInt64.ofNat ([reason].count kind) := by
  cases reason <;> cases kind <;> first | exact ⟨rfl, rfl⟩ | exact ⟨rfl, (UInt64.add_zero _).symm⟩

theorem Telemetry.record_accepted (t : Telemetry) (kind : RejectionKind) :
    (t.record .accepted).rejections kind = t.rejections kind := by
  cases kind <;> rfl

namespace Gateway

variable {g g' g'' : Gateway} {verdicts more : List Verdict}

/-- The counters and the records of the second gateway are those of the first after these verdicts. -/
structure Balanced (g : Gateway) (verdicts : List Verdict) (g' : Gateway) : Prop where
  accepted : g'.telemetry.validationsAccepted =
    g.telemetry.validationsAccepted + UInt64.ofNat (verdicts.filterMap Verdict.charged?).length
  rejections : ∀ kind, g'.telemetry.rejections kind =
    g.telemetry.rejections kind + UInt64.ofNat ((verdicts.filterMap Verdict.refusal?).count kind)
  usage : ∀ id record, g.store.find? id = some record → ∃ record',
    g'.store.find? id = some record' ∧ record'.usage.toNat =
      min (record.usage.toNat + (verdicts.filterMap Verdict.charged?).count id) (UInt64.size - 1)
  total : g'.store.HasRoom →
    g'.store.usageTotal = g.store.usageTotal + (verdicts.filterMap Verdict.charged?).length

theorem usage_self (record : KeyRecord) :
    record.usage.toNat = min (record.usage.toNat + 0) (UInt64.size - 1) := by
  have hlt := record.usage.toNat_lt
  have hsize : UInt64.size = 2 ^ 64 := rfl
  omega

theorem Balanced.of_sameKeys (h : g.SameKeys g') : g.Balanced [] g' := by
  refine ⟨h.accepted.trans (UInt64.add_zero _).symm,
    fun kind => (h.rejections kind).trans (UInt64.add_zero _).symm, fun id record hfind => ?_,
    fun _ => ?_⟩
  · exact ⟨record, by rw [h.store]; exact hfind, usage_self record⟩
  · rw [h.store]
    rfl

theorem Balanced.room (h : g.Balanced verdicts g') (hroom : g'.store.HasRoom) : g.store.HasRoom := by
  intro id record hfind
  obtain ⟨record', hfind', husage⟩ := h.usage id record hfind
  have hlt := hroom id record' hfind'
  omega

theorem Balanced.trans (h : g.Balanced verdicts g') (h' : g'.Balanced more g'') :
    g.Balanced (verdicts ++ more) g'' := by
  refine ⟨?_, fun kind => ?_, fun id record hfind => ?_, fun hroom => ?_⟩
  · rw [h'.accepted, h.accepted, List.filterMap_append, List.length_append, UInt64.ofNat_add,
      UInt64.add_assoc]
  · rw [h'.rejections, h.rejections, List.filterMap_append, List.count_append, UInt64.ofNat_add,
      UInt64.add_assoc]
  · obtain ⟨record', hfind', husage⟩ := h.usage id record hfind
    obtain ⟨record'', hfind'', husage'⟩ := h'.usage id record' hfind'
    refine ⟨record'', hfind'', ?_⟩
    rw [husage', husage, List.filterMap_append, List.count_append]
    omega
  · rw [h'.total hroom, h.total (h'.room hroom), List.filterMap_append, List.length_append,
      Nat.add_assoc]

theorem Judged.indexed {now : Nat} {verdict : Verdict} (h : g.Judged now verdict g')
    (hs : g.store.Indexed) : g'.store.Indexed := by
  cases h with
  | rejected => exact hs
  | valid call => exact KeyStore.indexed_edit hs call.record.id (KeyStore.charged_kept now)

theorem Judged.outage {now : Nat} {verdict : Verdict} (h : g.Judged now verdict g') :
    g'.outage = g.outage := by
  cases h <;> rfl

theorem Judged.balanced {now : Nat} {verdict : Verdict} (h : g.Judged now verdict g') :
    g.Balanced [verdict] g' := by
  cases h with
  | rejected reason =>
    obtain ⟨haccepted, -⟩ := g.telemetry.record_rejected reason.kind reason.kind
    refine ⟨haccepted.trans (UInt64.add_zero _).symm, fun kind => ?_, fun id record hfind => ?_,
      fun _ => rfl⟩
    · exact (g.telemetry.record_rejected reason.kind kind).2
    · exact ⟨record, hfind, usage_self record⟩
  | valid call found plan =>
    have hfind := Http.Surroundings.find?_charged now found
    have hself : (g.charged now call.record.id).store.find? call.record.id =
        some (call.record.charged now) := (hfind call.record.id).trans (if_pos rfl)
    refine ⟨rfl, fun kind => ?_, fun id record hrecord => ?_, fun hroom => ?_⟩
    · exact (g.telemetry.record_accepted kind).trans (UInt64.add_zero _).symm
    · by_cases hid : call.record.id = id
      · subst id
        cases found.symm.trans hrecord
        refine ⟨_, hself, ?_⟩
        simp only [List.filterMap_cons, Verdict.charged?, List.filterMap_nil, List.count_singleton_self]
        exact toNat_nextUsage call.record.usage
      · refine ⟨record, (hfind id).trans ((if_neg hid).trans hrecord), ?_⟩
        simp only [List.filterMap_cons, Verdict.charged?, List.filterMap_nil]
        rw [List.count_singleton, if_neg (by simpa using hid)]
        exact usage_self record
    · have hlt := hroom _ _ hself
      have hnext := toNat_nextUsage call.record.usage
      have hsum := Table.sum_modify (fun record : KeyRecord => record.usage.toNat) found
        (·.charged now)
      have hcharged : (call.record.charged now).usage = nextUsage call.record.usage := rfl
      have htotal : (g.charged now call.record.id).store.usageTotal =
          ((g.store.keys.modify call.record.id (·.charged now)).values.map
            fun record => record.usage.toNat).sum := rfl
      rw [hcharged] at hlt hsum
      rw [htotal]
      simp only [List.filterMap_cons, Verdict.charged?, List.filterMap_nil, List.length_singleton]
      unfold KeyStore.usageTotal
      omega

end Gateway

namespace Http

/-- What goes on at a gateway: a request, the end of a session, or a move of the pump of one. -/
inductive Act
  | call (s : Surroundings) (r : Request)
  | release (handle : SessionHandle)
  | move (pump : Feed.Pump) (move : Feed.Move)

namespace Act

def after (g : Gateway) : Act → Gateway
  | call s r => (s.respond g r).2
  | release handle => (g.release handle).2
  | move pump m =>
    match pump.move? m with
    | some (_, tallies) => g.countAll tallies
    | none => g

def verdict? (g : Gateway) : Act → Option Verdict
  | call s r => if r.isGated then (g.validate s.now r.presentedKey).1.toOption else none
  | release _ | move .. => none

def answer? (g : Gateway) : Act → Option Response
  | call s r => some (s.respond g r).1
  | release _ | move .. => none

end Act

def run (g : Gateway) (acts : List Act) : Gateway :=
  acts.foldl Act.after g

def verdicts : Gateway → List Act → List Verdict
  | _, [] => []
  | g, act :: acts => (act.verdict? g).toList ++ verdicts (act.after g) acts

def answers : Gateway → List Act → List Response
  | _, [] => []
  | g, act :: acts => (act.answer? g).toList ++ answers (act.after g) acts

def charges (g : Gateway) (acts : List Act) : List Uuid :=
  (verdicts g acts).filterMap Verdict.charged?

def refusals (g : Gateway) (acts : List Act) : List RejectionKind :=
  (verdicts g acts).filterMap Verdict.refusal?

variable {g g' : Gateway} {acts : List Act}

theorem Act.after_cases (hs : g.store.Indexed) (hout : g.outage = none) (act : Act) :
    (act.verdict? g = none ∧ g.SameKeys (act.after g)) ∨
      ∃ now verdict judged, act.verdict? g = some verdict ∧ g.Judged now verdict judged ∧
        judged.SameKeys (act.after g) := by
  cases act with
  | release handle => exact .inl ⟨rfl, g.sameKeys_release handle⟩
  | move pump move =>
    refine .inl ⟨rfl, ?_⟩
    simp only [Act.after]
    split
    · next hmove => exact g.sameKeys_move (Feed.Pump.made_of_move? hmove)
    · exact .refl g
  | call s r =>
    cases hgated : r.isGated with
    | false => exact .inl ⟨by simp [verdict?, hgated], (Surroundings.respond_of_free hgated).1⟩
    | true =>
      obtain ⟨verdict, judged, hvalidate, hjudged⟩ := Gateway.judged hs hout s.now r.presentedKey
      refine .inr ⟨s.now, verdict, judged, ?_, hjudged, ?_⟩
      · simp [verdict?, hgated, hvalidate, Except.toOption]
      · exact (Surroundings.respond_of_isGated hgated hvalidate).1

theorem Act.keeps (hs : g.store.Indexed) (hout : g.outage = none) (act : Act) :
    (act.after g).store.Indexed ∧ (act.after g).outage = none := by
  rcases act.after_cases hs hout with ⟨-, hkeys⟩ | ⟨now, verdict, judged, -, hjudged, hkeys⟩
  · rw [hkeys.store, hkeys.outage]
    exact ⟨hs, hout⟩
  · rw [hkeys.store, hkeys.outage, hjudged.outage]
    exact ⟨hjudged.indexed hs, hout⟩

theorem Act.balanced (hs : g.store.Indexed) (hout : g.outage = none) (act : Act) :
    g.Balanced (act.verdict? g).toList (act.after g) := by
  rcases act.after_cases hs hout with ⟨hnone, hkeys⟩ | ⟨now, verdict, judged, hsome, hjudged, hkeys⟩
  · rw [hnone]
    exact .of_sameKeys hkeys
  · rw [hsome]
    exact hjudged.balanced.trans (.of_sameKeys hkeys)

theorem Act.told (hs : g.store.Indexed) (hout : g.outage = none) (act : Act) :
    (act.answer? g).toList.countP (fun answer => decide (answer.told ≠ [])) =
      ((act.verdict? g).toList.filterMap Verdict.charged?).length := by
  cases act with
  | release | move => rfl
  | call s r =>
    cases hgated : r.isGated with
    | false =>
      have htold := (Surroundings.respond_of_free (s := s) (g := g) hgated).2
      simp [answer?, verdict?, hgated, htold]
    | true =>
      obtain ⟨verdict, judged, hvalidate, -⟩ := Gateway.judged hs hout s.now r.presentedKey
      have htold := (Surroundings.respond_of_isGated hgated hvalidate).2
      cases verdict with
      | rejected reason =>
        simp [answer?, verdict?, hgated, hvalidate, Except.toOption, htold, Surroundings.toldAfter,
          Verdict.charged?, List.filterMap_cons]
      | valid call =>
        simp [answer?, verdict?, hgated, hvalidate, Except.toOption, htold, Surroundings.toldAfter,
          Verdict.charged?, Charged.headers]

theorem keeps_run (hs : g.store.Indexed) (hout : g.outage = none) (acts : List Act) :
    (run g acts).store.Indexed ∧ (run g acts).outage = none := by
  induction acts generalizing g with
  | nil => exact ⟨hs, hout⟩
  | cons act acts ih =>
    obtain ⟨hs', hout'⟩ := act.keeps hs hout
    exact ih hs' hout'

theorem balanced_run (hs : g.store.Indexed) (hout : g.outage = none) (acts : List Act) :
    g.Balanced (verdicts g acts) (run g acts) := by
  induction acts generalizing g with
  | nil => exact .of_sameKeys (.refl g)
  | cons act acts ih =>
    obtain ⟨hs', hout'⟩ := act.keeps hs hout
    exact (act.balanced hs hout).trans (ih hs' hout')

theorem told_run (hs : g.store.Indexed) (hout : g.outage = none) (acts : List Act) :
    (answers g acts).countP (fun answer => decide (answer.told ≠ [])) = (charges g acts).length := by
  induction acts generalizing g with
  | nil => rfl
  | cons act acts ih =>
    obtain ⟨hs', hout'⟩ := act.keeps hs hout
    rw [answers, charges, verdicts, List.countP_append, List.filterMap_append, List.length_append,
      act.told hs hout, ih hs' hout']
    rfl

/-- Requests at a gateway, one after the other, with sessions that go on or end between them. A request of
a charged route is handed to its handler if and only if its key is valid; then one call of this key is
charged, whatever the handler answers, and the answer tells what was left before. A request that is turned
away and a request of any other route change no record. So over all requests as many calls are accepted
as are charged and as answers tell of a plan, each key is charged what its counter says, and every refusal
is counted under its reason; these two counters are words and go around at 2^64. -/
theorem ledger_run (g : Gateway) (acts : List Act) (hs : g.store.Reachable) (hout : g.outage = none) :
    (∀ before s r after, acts = before ++ .call s r :: after →
      (∀ route, Route.ofPath? r.path = some route → route.isCharged = true →
        r.method ∈ route.methods →
        ∃ verdict, ((run g before).validate s.now r.presentedKey).1 = .ok verdict ∧
          match verdict with
          | .valid call => s.Passed (run g before) r route call
          | .rejected reason => s.TurnedAway (run g before) r reason) ∧
      ((∀ route, Route.ofPath? r.path = some route → route.isCharged = false) →
        (s.respond (run g before) r).2.store = (run g before).store)) ∧
    (run g acts).telemetry.validationsAccepted =
      g.telemetry.validationsAccepted + UInt64.ofNat (charges g acts).length ∧
    (answers g acts).countP (fun answer => decide (answer.told ≠ [])) = (charges g acts).length ∧
    (∀ id record, g.store.find? id = some record → ∃ record',
      (run g acts).store.find? id = some record' ∧ record'.usage.toNat =
        min (record.usage.toNat + (charges g acts).count id) (UInt64.size - 1)) ∧
    ((run g acts).store.HasRoom →
      (run g acts).store.usageTotal = g.store.usageTotal + (charges g acts).length) ∧
    ∀ kind, (run g acts).telemetry.rejections kind =
      g.telemetry.rejections kind + UInt64.ofNat ((refusals g acts).count kind) := by
  have hbooks := balanced_run hs.indexed hout acts
  refine ⟨fun before s r after _ => ?_, hbooks.accepted, told_run hs.indexed hout acts, hbooks.usage,
    hbooks.total, hbooks.rejections⟩
  obtain ⟨hs', hout'⟩ := keeps_run hs.indexed hout before
  refine ⟨fun route hroute hcharged hmethod => ?_, fun hfree => ?_⟩
  · exact Surroundings.respond_of_isCharged hs' hout' hroute hcharged hmethod
  · have hgate : r.isGated = false := by
      cases hroute : Route.ofPath? r.path with
      | none => simp [Request.isGated, hroute]
      | some route => simp [Request.isGated, hroute, hfree route hroute]
    exact (Surroundings.respond_of_free hgate).1.store

def sampleGateway : Gateway :=
  { Gateway.start {}
      ⟨[⟨"sepolia", 11155111, "Sepolia", "ETH", "", [], ""⟩], "sepolia"⟩ with
    store := KeyStore.empty.run KeyStore.twoLeft }

def sampleSurroundings : Surroundings :=
  { node := .unreachable
    engine := fun _ => .error { code := .simulationFailed, message := "down" }
    connector := .unreachable
    now := 1
    freshId := .filled 16 9 }

/-- Two calls whose handlers fail, one too many, one without a key and one that needs none. -/
def sampleCalls : List Act :=
  let key := [("X-Api-Key", "sg_gold")]
  [⟨"GET", "/v1/networks/sepolia/gas", "", key, ""⟩, ⟨"POST", "/v1/classify", "", key, "x"⟩,
    ⟨"GET", "/v1/networks/sepolia/gas", "", key, ""⟩, ⟨"POST", "/v1/simulate", "", [], ""⟩,
    ⟨"GET", "/v1/networks", "", [], ""⟩].map (.call sampleSurroundings)

theorem ledger_run_sampleCalls :
    sampleGateway.store.Reachable ∧ sampleGateway.outage = none ∧
      (answers sampleGateway sampleCalls).map (·.status) = [502, 415, 429, 401, 200] ∧
      (run sampleGateway sampleCalls).telemetry.validationsAccepted = 2 ∧
      (run sampleGateway sampleCalls).telemetry.rejections .limitReached = 1 ∧
      ∃ record, (run sampleGateway sampleCalls).store.find? (.filled 16 4) = some record ∧
        record.usage.toNat = 100 := by
  have hreachable : sampleGateway.store.Reachable := ⟨KeyStore.twoLeft, by decide +kernel, rfl⟩
  have hcharges : charges sampleGateway sampleCalls = [.filled 16 4, .filled 16 4] := by
    decide +kernel
  have hrefusals : refusals sampleGateway sampleCalls = [.limitReached, .keyRequired] := by
    decide +kernel
  have hfound : (sampleGateway.store.find? (.filled 16 4)).map (·.usage) = some 98 := by
    decide +kernel
  obtain ⟨record, hrecord, husage⟩ := Option.map_eq_some_iff.mp hfound
  obtain ⟨-, haccepted, -, hcounts, -, hrejections⟩ :=
    ledger_run sampleGateway sampleCalls hreachable rfl
  obtain ⟨record', hrecord', hcount⟩ := hcounts _ record hrecord
  rw [hcharges] at haccepted hcount
  have hlimit := hrejections .limitReached
  rw [hrefusals] at hlimit
  refine ⟨hreachable, rfl, by decide +kernel, haccepted, hlimit, record', hrecord', ?_⟩
  rw [hcount, husage]
  decide

end Http

end MempoolGate
