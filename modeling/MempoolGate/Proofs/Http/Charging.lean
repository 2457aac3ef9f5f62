import MempoolGate.Proofs.Http.Handlers
import MempoolGate.Proofs.Quota.Verdict

namespace MempoolGate

namespace Gateway

def charged (g : Gateway) (now : Nat) (id : Uuid) : Gateway :=
  { g with store := g.store.edit id (·.charged now) }.count .accepted

variable {g g' : Gateway}

/-- The gateway after a verdict. -/
inductive Judged (g : Gateway) (now : Nat) : Verdict → Gateway → Prop
  | rejected (reason : Rejection) : Judged g now (.rejected reason) (g.count (.rejected reason.kind))
  | valid (call : Charged) (found : g.store.find? call.record.id = some call.record)
      (plan : call.plan = Plan.resolve call.record.planId) :
      Judged g now (.valid call) (g.charged now call.record.id)

theorem validate_eq (hout : g.outage = none) (now : Nat) (raw : Option String) :
    g.validate now raw = match g.store.validate now raw with
      | .error e => (.error e, g)
      | .ok (verdict, store) => (.ok verdict, { g with store := store }.count verdict.tally) := by
  have hlookup : g.lookup = fun hash => .ok (g.store.findActive? hash) := by
    funext hash
    simp only [lookup, hout]
  rw [validate, hlookup]
  rfl

theorem registry_validate (g : Gateway) (now : Nat) (raw : Option String) :
    (g.validate now raw).2.registry = g.registry := by
  unfold validate
  split <;> rfl

theorem judged (hs : g.store.Indexed) (hout : g.outage = none) (now : Nat) (raw : Option String) :
    ∃ verdict g', g.validate now raw = (.ok verdict, g') ∧ g.Judged now verdict g' := by
  rw [validate_eq hout]
  cases hk : raw.bind Key.normalize? with
  | none =>
    rw [g.store.validate_of_missing now hk]
    exact ⟨_, _, rfl, .rejected .keyRequired⟩
  | some key =>
    obtain ⟨verdict, store, hvalidate, hjudged⟩ := KeyStore.judged hs now hk
    rw [hvalidate]
    refine ⟨_, _, rfl, ?_⟩
    cases hjudged with
    | unknown => exact .rejected .invalidOrRevoked
    | inactive owned => exact .rejected (.accountInactive owned.account.status)
    | exhausted owned limit => exact .rejected (.limitReached limit owned.record.usage)
    | valid owned h =>
      have hfound := (hs.find?_of_findActive? h).2
      generalize hcall : (⟨⟨owned.record, Plan.resolve owned.record.planId⟩,
        nextUsage owned.record.usage⟩ : Charged) = call
      have hrecord : call.record = owned.record := by rw [← hcall]
      have hplan : call.plan = Plan.resolve call.record.planId := by rw [← hcall]
      rw [← hrecord] at hfound ⊢
      exact .valid call hfound hplan

end Gateway

namespace Http

namespace Route

theorem options_notMem_methods (route : Route) : "OPTIONS" ∉ route.methods := by
  cases route <;> simp [methods]

end Route

/-- The request has to present a key. A route asks for one whatever the method is. -/
def Request.isGated (r : Request) : Bool :=
  (Route.ofPath? r.path).any Route.isCharged && r.method ≠ "OPTIONS"

namespace Surroundings

variable {s : Surroundings} {g g' : Gateway} {r : Request} {route : Route}

theorem withoutBody_spec (g : Gateway) (response : Response) :
    (withoutBody g response).1 = response.bare ∧ g.SameKeys (withoutBody g response).2 ∧
      (response.isFeed = false → (withoutBody g response).2 = g) := by
  unfold withoutBody
  split
  · next handle pump hcontent =>
    refine ⟨rfl, g.sameKeys_release handle, fun hfeed => ?_⟩
    simp [Response.isFeed, hcontent] at hfeed
  · exact ⟨rfl, .refl g, fun _ => rfl⟩

/-- What is done to an answer on its way out leaves alone what it says and what it is. -/
theorem respond_of_route (hroute : Route.ofPath? r.path = some route) (hmethod : r.method ≠ "OPTIONS") :
    (s.respond g r).1.told = (s.dispatch g r route).1.told ∧
      (s.respond g r).1.status = (s.dispatch g r route).1.status ∧
      (r.method ≠ "HEAD" → (s.respond g r).1.content = (s.dispatch g r route).1.content) ∧
      (s.dispatch g r route).2.SameKeys (s.respond g r).2 ∧
      ((s.dispatch g r route).1.isFeed = false → (s.respond g r).2 = (s.dispatch g r route).2) := by
  simp only [respond, hroute, if_neg hmethod]
  generalize s.dispatch g r route = answer
  obtain ⟨response, g'⟩ := answer
  have htold := response.told_dressed r.encoding
  obtain ⟨hstatus, hcontent⟩ := response.status_dressed r.encoding
  obtain ⟨hbare, hkeys, hsame⟩ := withoutBody_spec g' (response.shared.encoded r.encoding)
  split
  · next hhead =>
    rw [hbare]
    refine ⟨htold, hstatus, fun hne => absurd hhead.1 hne, hkeys, fun hfeed => hsame ?_⟩
    rw [← hfeed, Response.isFeed, hcontent]
    rfl
  · exact ⟨htold, hstatus, fun _ => hcontent, .refl _, fun _ => rfl⟩

theorem serve_of_mem (hmethod : r.method ∈ route.methods) :
    s.serve g r route = s.handle g r route :=
  if_pos hmethod

theorem serve_spec (s : Surroundings) (g : Gateway) (r : Request) (route : Route) :
    g.SameKeys (s.serve g r route).2 ∧ (s.serve g r route).1.told = [] ∧
      (route.isCharged = true → (s.serve g r route).1.isFeed = false) := by
  have hhandled := s.handled g r route
  unfold serve
  split
  · exact ⟨hhandled.sameKeys, hhandled.told, hhandled.isFeed⟩
  · exact ⟨.refl g, rfl, fun _ => rfl⟩

theorem dispatch_of_isCharged (hcharged : route.isCharged = true) :
    (s.dispatch g r route).1.told = (s.serveCharged g r route).1.told ∧
      (s.dispatch g r route).1.status = (s.serveCharged g r route).1.status ∧
      (s.dispatch g r route).1.content = (s.serveCharged g r route).1.content ∧
      (s.dispatch g r route).2 = (s.serveCharged g r route).2 := by
  simp only [dispatch, if_pos hcharged]
  generalize s.serveCharged g r route = answer
  obtain ⟨response, g'⟩ := answer
  split
  · exact ⟨rfl, rfl, rfl, rfl⟩
  · exact ⟨response.told_allow route.allow, rfl, rfl, rfl⟩

theorem serveCharged_of_rejected (route : Route) {reason : Rejection}
    (h : g.validate s.now r.presentedKey = (.ok (.rejected reason), g')) :
    s.serveCharged g r route = (.complaint (.ofRejection reason), g') := by
  simp only [serveCharged, h]

theorem serveCharged_of_valid (route : Route) {call : Charged}
    (h : g.validate s.now r.presentedKey = (.ok (.valid call), g')) :
    s.serveCharged g r route = ((s.serve g' r route).1.adding call.headers, (s.serve g' r route).2) := by
  simp only [serveCharged, h]

theorem respond_of_free (hfree : r.isGated = false) :
    g.SameKeys (s.respond g r).2 ∧ (s.respond g r).1.told = [] := by
  by_cases hmethod : r.method = "OPTIONS"
  · unfold respond
    split
    · simp only [if_pos hmethod]
      exact ⟨.refl g, Response.told_preflight⟩
    · simp only [if_pos hmethod]
      exact ⟨.refl g, Response.told_preflight ▸ Response.told_allow _ _⟩
  · cases hroute : Route.ofPath? r.path with
    | none =>
      simp only [respond, hroute, if_neg hmethod]
      exact ⟨.refl g, (Response.notFound.told_dressed r.encoding).trans (Response.told_failure _)⟩
    | some route =>
      have hcharged : route.isCharged = false := by
        simpa [Request.isGated, hroute, hmethod] using hfree
      obtain ⟨htold, -, -, hkeys, -⟩ := respond_of_route (s := s) (g := g) hroute hmethod
      obtain ⟨hserved, hsilent, -⟩ := s.serve_spec g r route
      have hdispatch : (s.dispatch g r route).1.told = (s.serve g r route).1.told ∧
          (s.dispatch g r route).2 = (s.serve g r route).2 := by
        simp only [dispatch, hcharged, Bool.false_eq_true, if_false]
        split
        · exact ⟨rfl, rfl⟩
        · exact ⟨Response.told_allow _ _, rfl⟩
      rw [hdispatch.2] at hkeys
      exact ⟨hserved.trans hkeys, htold.trans (hdispatch.1.trans hsilent)⟩

def toldAfter : Verdict → List (String × String)
  | .valid call => call.headers
  | .rejected _ => []

theorem respond_of_isGated (hgated : r.isGated = true) {verdict : Verdict}
    (h : g.validate s.now r.presentedKey = (.ok verdict, g')) :
    g'.SameKeys (s.respond g r).2 ∧ (s.respond g r).1.told = toldAfter verdict := by
  simp only [Request.isGated, Bool.and_eq_true, decide_eq_true_eq] at hgated
  obtain ⟨hany, hmethod⟩ := hgated
  obtain ⟨route, hroute, hcharged⟩ := (Option.any_eq_true ..).mp hany
  obtain ⟨htold, -, -, hkeys, -⟩ := respond_of_route (s := s) (g := g) hroute hmethod
  obtain ⟨hdispatch, -, -, hgateway⟩ := dispatch_of_isCharged (s := s) (g := g) (r := r) hcharged
  rw [hgateway] at hkeys
  rw [htold, hdispatch]
  cases verdict with
  | rejected reason =>
    rw [serveCharged_of_rejected route h] at hkeys ⊢
    exact ⟨hkeys, Response.told_failure ⟨reason.code, reason.message, false⟩⟩
  | valid call =>
    rw [serveCharged_of_valid route h] at hkeys ⊢
    obtain ⟨hserved, hsilent, -⟩ := s.serve_spec g' r route
    refine ⟨hserved.trans hkeys, ?_⟩
    rw [Response.told_adding, hsilent]
    exact Response.ofPlan_headers call

/-- A request that was let through: its handler has answered, and one call is charged to the key. -/
structure Passed (s : Surroundings) (g : Gateway) (r : Request) (route : Route) (call : Charged) :
    Prop where
  gateway : (s.respond g r).2 = (s.handle (g.validate s.now r.presentedKey).2 r route).2
  status : (s.respond g r).1.status =
    (s.handle (g.validate s.now r.presentedKey).2 r route).1.status
  content : r.method ≠ "HEAD" → (s.respond g r).1.content =
    (s.handle (g.validate s.now r.presentedKey).2 r route).1.content
  told : (s.respond g r).1.told =
    [("x-ratelimit-limit", (Plan.resolve call.record.planId).allowance.text),
      ("x-ratelimit-remaining",
        (Plan.resolve call.record.planId).allowance.remainingText call.record.usage),
      ("x-ratelimit-plan", (Plan.resolve call.record.planId).label)]
  found : g.store.find? call.record.id = some call.record
  charged : (s.respond g r).2.store.find? call.record.id = some (call.record.charged s.now)
  others : ∀ id ≠ call.record.id, (s.respond g r).2.store.find? id = g.store.find? id

def refusalStatus : Rejection → Nat
  | .limitReached .. => 429
  | .keyRequired | .invalidOrRevoked | .accountInactive _ => 401

/-- A request that was turned away: only the counter knows of it, and what surrounds the gateway has no
part in the answer. -/
structure TurnedAway (s : Surroundings) (g : Gateway) (r : Request) (reason : Rejection) : Prop where
  gateway : (s.respond g r).2 = g.count (.rejected reason.kind)
  status : (s.respond g r).1.status = refusalStatus reason
  told : (s.respond g r).1.told = []
  alone : ∀ s' : Surroundings, s'.now = s.now → s'.respond g r = s.respond g r

theorem find?_charged {store : KeyStore} {record : KeyRecord} (now : Nat)
    (h : store.find? record.id = some record) (id : Uuid) :
    (store.edit record.id (·.charged now)).find? id =
      if record.id = id then some (record.charged now) else store.find? id := by
  have hmodify : (store.edit record.id (·.charged now)).find? id = _ :=
    Table.get?_modify store.keys record.id id (·.charged now)
  rw [hmodify]
  by_cases hid : record.id = id
  · subst id
    rw [if_pos rfl, if_pos rfl]
    exact congrArg (Option.map _) h
  · rw [if_neg hid, if_neg hid]
    rfl

theorem respond_congr (s' : Surroundings) (hroute : Route.ofPath? r.path = some route)
    (hmethod : r.method ≠ "OPTIONS") (h : s'.dispatch g r route = s.dispatch g r route) :
    s'.respond g r = s.respond g r := by
  simp only [respond, hroute, if_neg hmethod, h]

/-- A request of a charged route is handed to its handler if and only if its key is valid. -/
theorem respond_of_isCharged (hs : g.store.Indexed) (hout : g.outage = none)
    (hroute : Route.ofPath? r.path = some route) (hcharged : route.isCharged = true)
    (hmethod : r.method ∈ route.methods) :
    ∃ verdict, (g.validate s.now r.presentedKey).1 = .ok verdict ∧
      match verdict with
      | .valid call => s.Passed g r route call
      | .rejected reason => s.TurnedAway g r reason := by
  have hoptions : r.method ≠ "OPTIONS" := by
    intro h
    exact route.options_notMem_methods (h ▸ hmethod)
  obtain ⟨verdict, g', hvalidate, hjudged⟩ := Gateway.judged hs hout s.now r.presentedKey
  obtain ⟨htold, hstatus, hcontent, -, hsame⟩ := respond_of_route (s := s) (g := g) hroute hoptions
  obtain ⟨hdispatched, hdispatchedStatus, hdispatchedContent, hdispatchedGateway⟩ :=
    dispatch_of_isCharged (s := s) (g := g) (r := r) hcharged
  refine ⟨verdict, by rw [hvalidate], ?_⟩
  cases hjudged with
  | rejected reason =>
    have hserved := serveCharged_of_rejected route hvalidate
    have hfeed : (s.dispatch g r route).1.isFeed = false := by
      rw [Response.isFeed, hdispatchedContent, hserved]
      rfl
    refine ⟨?_, ?_, ?_, fun s' hnow => ?_⟩
    · rw [hsame hfeed, hdispatchedGateway, hserved]
    · rw [hstatus, hdispatchedStatus, hserved]
      cases reason <;> rfl
    · rw [htold, hdispatched, hserved]
      exact Response.told_failure ⟨reason.code, reason.message, false⟩
    · have hvalidate' : g.validate s'.now r.presentedKey = _ := hnow ▸ hvalidate
      apply respond_congr s' hroute hoptions
      simp only [dispatch, hcharged, if_true]
      rw [hserved, serveCharged_of_rejected route hvalidate']
  | valid call found plan =>
    have hserved := serveCharged_of_valid route hvalidate
    rw [serve_of_mem hmethod] at hserved
    -- the handler runs on the gateway after the charge, and leaves its keys alone
    have hhandled := s.handled (g.charged s.now call.record.id) r route
    have hfeed : (s.dispatch g r route).1.isFeed = false := by
      rw [Response.isFeed, hdispatchedContent, hserved]
      exact hhandled.isFeed hcharged
    have hgateway : (s.respond g r).2 = _ := (hsame hfeed).trans hdispatchedGateway
    have hstore := hhandled.sameKeys.store
    have hfind := find?_charged s.now found
    refine ⟨?_, ?_, fun hhead => ?_, ?_, found, ?_, fun id hid => ?_⟩
    · rw [hgateway, hserved, hvalidate]
    · rw [hstatus, hdispatchedStatus, hserved, hvalidate]
      rfl
    · rw [hcontent hhead, hdispatchedContent, hserved, hvalidate]
      rfl
    · rw [htold, hdispatched, hserved, Response.told_adding, hhandled.told, ← plan]
      exact Response.ofPlan_headers call
    · rw [hgateway, hserved, hstore]
      exact (hfind _).trans (if_pos rfl)
    · rw [hgateway, hserved, hstore]
      exact (hfind id).trans (if_neg (Ne.symm hid))

def Admits (s : Surroundings) (g : Gateway) (r : Request) : Prop :=
  ∃ call, (g.validate s.now r.presentedKey).1 = .ok (.valid call)

theorem Admits.passed (h : s.Admits g r) (hs : g.store.Indexed) (hout : g.outage = none)
    (hroute : Route.ofPath? r.path = some route) (hcharged : route.isCharged = true)
    (hmethod : r.method ∈ route.methods) : ∃ call, s.Passed g r route call := by
  obtain ⟨call, hcall⟩ := h
  obtain ⟨verdict, hverdict, hrespond⟩ := respond_of_isCharged hs hout hroute hcharged hmethod
  cases hverdict.symm.trans hcall
  exact ⟨call, hrespond⟩

end Surroundings

end Http

end MempoolGate
