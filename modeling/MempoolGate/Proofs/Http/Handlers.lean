import MempoolGate.Http.Router
import MempoolGate.Proofs.Feed.Pump
import MempoolGate.Proofs.Gateway.Session
import MempoolGate.Proofs.Rpc.Client

namespace MempoolGate

def Telemetry.rejections (t : Telemetry) : RejectionKind → UInt64
  | .keyRequired => t.rejectedKeyRequired
  | .invalidKey => t.rejectedInvalidKey
  | .accountInactive => t.rejectedAccountInactive
  | .limitReached => t.rejectedLimitReached

theorem Telemetry.record_emitted_keys (t : Telemetry) (level : RiskLevel) :
    (t.record (.emitted level)).validationsAccepted = t.validationsAccepted ∧
      ∀ kind, (t.record (.emitted level)).rejections kind = t.rejections kind := by
  cases level <;> exact ⟨rfl, fun kind => by cases kind <;> rfl⟩

namespace Gateway

/-- Nothing about keys differs between the two gateways. -/
structure SameKeys (g g' : Gateway) : Prop where
  store : g'.store = g.store
  outage : g'.outage = g.outage
  accepted : g'.telemetry.validationsAccepted = g.telemetry.validationsAccepted
  rejections : ∀ kind, g'.telemetry.rejections kind = g.telemetry.rejections kind

theorem SameKeys.refl (g : Gateway) : g.SameKeys g :=
  ⟨rfl, rfl, rfl, fun _ => rfl⟩

theorem SameKeys.trans {a b c : Gateway} (h : a.SameKeys b) (h' : b.SameKeys c) : a.SameKeys c :=
  ⟨h'.store.trans h.store, h'.outage.trans h.outage, h'.accepted.trans h.accepted,
    fun kind => (h'.rejections kind).trans (h.rejections kind)⟩

theorem sameKeys_subscribe (g : Gateway) (connector : Connector) (id : Uuid) (name : String) :
    g.SameKeys (g.subscribe connector id name).2 := by
  have hopening := g.opening_of_subscribe connector id name
  generalize g.subscribe connector id name = result at hopening
  obtain ⟨outcome, g'⟩ := result
  cases hopening with
  | refused => exact .refl _
  | unreached | unsubscribed | opened | panicked =>
    refine ⟨rfl, rfl, rfl, fun kind => ?_⟩
    cases kind <;> rfl

theorem sameKeys_release (g : Gateway) (h : SessionHandle) : g.SameKeys (g.release h).2 := by
  unfold release
  split
  · exact .refl g
  · refine ⟨rfl, rfl, rfl, fun kind => ?_⟩
    cases kind <;> rfl

theorem sameKeys_clients (g : Gateway) (clients : Rpc.Clients) :
    g.SameKeys { g with clients := clients } :=
  ⟨rfl, rfl, rfl, fun _ => rfl⟩

theorem sameKeys_move (g : Gateway) {pump pump' : Feed.Pump} {move : Feed.Move}
    {tallies : List Tally} (h : pump.Made move pump' tallies) : g.SameKeys (g.countAll tallies) := by
  cases h with
  | settle ticket lookup =>
    cases lookup with
    | missing => exact ⟨rfl, rfl, rfl, fun kind => by cases kind <;> rfl⟩
    | found tx seenAt =>
      obtain ⟨haccepted, hrejections⟩ := g.telemetry.record_emitted_keys (Risk.classify tx).level
      exact ⟨rfl, rfl, haccepted, hrejections⟩
  | _ => exact ⟨rfl, rfl, rfl, fun kind => by cases kind <;> rfl⟩

end Gateway

namespace Http

namespace Response

def ofPlan (headers : List (String × String)) : List (String × String) :=
  headers.filter fun h =>
    h.1 ∈ ["x-ratelimit-limit", "x-ratelimit-remaining", "x-ratelimit-plan"]

def told (r : Response) : List (String × String) :=
  ofPlan r.headers

theorem told_adding (r : Response) (headers : List (String × String)) :
    (r.adding headers).told = r.told ++ ofPlan headers :=
  List.filter_append ..

theorem ofPlan_headers (call : Charged) : ofPlan call.headers = call.headers := by
  simp [ofPlan, Charged.headers]

theorem told_failure (e : GatewayError) : (failure e).told = [] := by
  simp [told, ofPlan, failure, complaint]

theorem told_ofResult (result : Except GatewayError Payload) : (ofResult result).told = [] := by
  cases result with
  | ok payload => simp [told, ofPlan, ofResult, data]
  | error e => exact told_failure e

theorem told_feed (handle : SessionHandle) (pump : Feed.Pump) : (feed handle pump).told = [] := by
  simp [told, ofPlan, feed]

theorem told_unreadable (status : Nat) : (unreadable status).told = [] := by
  simp [told, ofPlan, unreadable]

theorem told_preflight : preflight.told = [] := by
  simp [told, ofPlan, preflight]

theorem told_cut : cut.told = [] := by
  simp [told, ofPlan, cut]

theorem told_allow (r : Response) (allow : String) : (r.adding [("allow", allow)]).told = r.told := by
  rw [told_adding]
  simp [ofPlan]

theorem told_dressed (r : Response) (encoding : Encoding) :
    (r.shared.encoded encoding).told = r.told := by
  have hshared : r.shared.told = r.told := by
    simp only [shared]
    rw [told_adding]
    simp [ofPlan]
  cases encoding with
  | identity => exact hshared
  | gzip =>
    simp only [encoded]
    split
    · rw [told_adding, hshared]
      simp [ofPlan]
    · exact hshared

theorem status_dressed (r : Response) (encoding : Encoding) :
    (r.shared.encoded encoding).status = r.status ∧
      (r.shared.encoded encoding).content = r.content := by
  cases encoding with
  | identity => exact ⟨rfl, rfl⟩
  | gzip =>
    simp only [encoded]
    split <;> exact ⟨rfl, rfl⟩

def isFeed (r : Response) : Bool :=
  match r.content with
  | .feed .. => true
  | _ => false

theorem isFeed_ofResult (result : Except GatewayError Payload) : (ofResult result).isFeed = false := by
  cases result <;> rfl

end Response

namespace Surroundings

variable (s : Surroundings) (g : Gateway)

/-- All that a handler can come to: it cannot read its request, it has a result, perhaps after a talk
with a node, or it opens a feed. -/
inductive Handled (s : Surroundings) (g : Gateway) (route : Route) : Response × Gateway → Prop
  | unreadable (status : Nat) : Handled s g route (.unreadable status, g)
  | result (result : Except GatewayError Payload) (pauses : Nat) (clients : Rpc.Clients)
      (used : g.clients.Used g.registry clients) :
      Handled s g route
        ({ Response.ofResult result with pauses := pauses }, { g with clients := clients })
  | stream (free : route.isCharged = false) (name : String) : Handled s g route (s.stream g name)

theorem handled_ofResult (route : Route) (result : Except GatewayError Payload) :
    Handled s g route (.ofResult result, g) :=
  .result result (Response.ofResult result).pauses g.clients .idle

theorem handled_gas (route : Route) (name : String) : Handled s g route (s.gas g name) := by
  unfold gas
  rcases hget : g.clients.get g.registry name with ⟨client, clients⟩
  dsimp only
  rcases hchainId : client.ask s.node .chainId with ⟨chainId, client₁⟩
  dsimp only
  rcases hgasPrice : client₁.ask s.node .gasPrice with ⟨gasPrice, client₂⟩
  dsimp only
  rcases hbaseFee : client₂.ask s.node .baseFee with ⟨baseFee, client₃⟩
  have hsame := (Rpc.Client.same_of_ask hchainId).trans
    ((Rpc.Client.same_of_ask hgasPrice).trans (Rpc.Client.same_of_ask hbaseFee))
  exact .result _ _ _ (Rpc.Clients.used_keep hget hsame)

theorem handled_account (route : Route) (name raw : String) :
    Handled s g route (s.account g name raw) := by
  unfold account
  split
  · next e _ => exact handled_ofResult s g route (.error e)
  · next address _ =>
    rcases hget : g.clients.get g.registry name with ⟨client, clients⟩
    dsimp only
    rcases hbalance : client.ask s.node (.balance address) with ⟨balance, client₁⟩
    dsimp only
    rcases hnonce : client₁.ask s.node (.nonce address) with ⟨nonce, client₂⟩
    dsimp only
    rcases hcode : client₂.ask s.node (.code address) with ⟨code, client₃⟩
    have hsame := (Rpc.Client.same_of_ask hbalance).trans
      ((Rpc.Client.same_of_ask hnonce).trans (Rpc.Client.same_of_ask hcode))
    exact .result _ _ _ (Rpc.Clients.used_keep hget hsame)

theorem handled_transaction (route : Route) (name raw : String) :
    Handled s g route (s.transaction g name raw) := by
  unfold transaction
  split
  · exact handled_ofResult s g route (.error _)
  · next hash _ =>
    rcases hget : g.clients.get g.registry name with ⟨client, clients⟩
    dsimp only
    rcases hcall : client.ask s.node (.transaction hash) with ⟨call, client₁⟩
    exact .result _ _ _ (Rpc.Clients.used_keep hget (Rpc.Client.same_of_ask hcall))

theorem handled (r : Request) (route : Route) : Handled s g route (s.handle g r route) := by
  cases route with
  | health => exact handled_ofResult s g _ (.ok (.health g.sessions.size))
  | networks => exact handled_ofResult s g _ (.ok (.networks _ _))
  | stats => exact handled_ofResult s g _ (.ok (stats g))
  | classify | simulate =>
    simp only [handle]
    split
    · exact handled_ofResult s g _ _
    · exact .unreadable _
  | stream network =>
    simp only [handle]
    split
    · exact .stream rfl _
    · exact .unreadable _
  | gas network =>
    simp only [handle]
    split
    · exact s.handled_gas g _ _
    · exact .unreadable _
  | account network address =>
    simp only [handle]
    split
    · exact s.handled_account g _ _ _
    · exact .unreadable _
  | transaction network hash =>
    simp only [handle]
    split
    · exact s.handled_transaction g _ _ _
    · exact .unreadable _

variable {s g} {route : Route} {answer : Response × Gateway}

theorem Handled.sameKeys (h : Handled s g route answer) : g.SameKeys answer.2 := by
  cases h with
  | unreadable => exact .refl g
  | result result pauses clients => exact g.sameKeys_clients clients
  | stream free name =>
    have hsubscribe := g.sameKeys_subscribe s.connector s.freshId name
    unfold Surroundings.stream
    split <;> next h =>
      rw [h] at hsubscribe
      exact hsubscribe

theorem Handled.told (h : Handled s g route answer) : answer.1.told = [] := by
  cases h with
  | unreadable status => exact Response.told_unreadable status
  | result result => exact Response.told_ofResult result
  | stream free name =>
    unfold Surroundings.stream
    split
    · exact Response.told_feed _ _
    · exact Response.told_failure _
    · exact Response.told_cut

theorem Handled.isFeed (h : Handled s g route answer) (hcharged : route.isCharged = true) :
    answer.1.isFeed = false := by
  cases h with
  | unreadable => rfl
  | result result => exact Response.isFeed_ofResult result
  | stream free => cases hcharged.symm.trans free

end Surroundings

end Http

end MempoolGate
