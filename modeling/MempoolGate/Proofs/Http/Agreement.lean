import MempoolGate.Proofs.Feed.Order
import MempoolGate.Proofs.Gateway.Turns
import MempoolGate.Proofs.Http.Body
import MempoolGate.Proofs.Http.Wiring
import MempoolGate.Proofs.Rpc.Reply

namespace MempoolGate

namespace Feed

variable {sub : Subscription} {report : TxReport}

theorem tx_of_mem_eventsFrom {n : Nat} {items : List Item}
    (h : .tx report ∈ sub.eventsFrom n items) : ∃ ticket tx seenAt,
      sub.lookup ticket = .found tx seenAt ∧ report = sub.network.report seenAt tx := by
  induction items generalizing n with
  | nil => cases h
  | cons item items ih =>
    cases item with
    | fault e =>
      rw [Subscription.eventsFrom, List.mem_cons] at h
      rcases h with h | h
      · cases h
      · exact ih h
    | hash hash =>
      rw [Subscription.eventsFrom, List.mem_append] at h
      rcases h with h | h
      · split at h
        · cases hlookup : sub.lookup n with
          | missing =>
            rw [hlookup] at h
            cases h
          | found tx seenAt =>
            rw [hlookup, Lookup.event?, Option.toList_some, List.mem_singleton] at h
            cases h
            exact ⟨n, tx, seenAt, hlookup, rfl⟩
        · cases h
      · exact ih h

theorem Delivery.tx_of_mem_got {moves : List Move} {d : Delivery}
    (hrun : (Delivery.start sub).run? moves = some d) (h : .tx report ∈ d.got) :
    ∃ ticket tx seenAt, sub.lookup ticket = .found tx seenAt ∧
      report = sub.network.report seenAt tx := by
  have hprefix := d.got_prefix.trans (foreseen_run (Sound.start sub) hrun)
  rw [foreseen_start] at hprefix
  have hmem := hprefix.subset h
  rw [Subscription.reference, List.mem_cons, List.mem_append, List.mem_singleton] at hmem
  rcases hmem with hmem | hmem | hmem
  · cases hmem
  · exact tx_of_mem_eventsFrom hmem
  · cases hmem

end Feed

namespace Http

open Json Text

def valueAt? (key : String) : Value → Option Value
  | .obj members => members.lookup key
  | _ => none

/-- Both objects have these members, with the same values. -/
def AgreeOn (keys : List String) (v w : Value) : Prop :=
  ∀ key ∈ keys, ∃ value, valueAt? key v = some value ∧ valueAt? key w = some value

def verdictKeys : List String :=
  ["network", "risk_score", "risk_level", "risk_reasons", "known_contract", "calldata_prefix"]

theorem score_le (tx : PendingTx) : (Risk.classify tx).score ≤ Risk.maxScore :=
  Nat.min_le_right ..

def verdictOn (net : Network) (tx : PendingTx) : ClassifyReport :=
  { network := net.id
    verdict := Risk.classify tx
    knownContract := tx.recipient.bind (contractLabel? net.chainId)
    selector := selectorText tx.input }

theorem agreeOn_verdictKeys (net : Network) (tx : PendingTx) (time : Int64) :
    AgreeOn verdictKeys (Payload.classified (verdictOn net tx)).value
      (Payload.transaction (net.report time tx)).value := by
  have hscore : (UInt8.ofNat (Risk.classify tx).score).toNat = (Risk.classify tx).score := by
    have hle := score_le tx
    have hmax : Risk.maxScore = 100 := rfl
    have hsize : UInt8.size = 256 := rfl
    exact UInt8.toNat_ofNat_of_lt' (by omega)
  have hlabel : ∀ label : Option String, plainValue (.ofOption label) = optional .str label := by
    intro label
    cases label <;> rfl
  have hclassified : (Payload.classified (verdictOn net tx)).value = (verdictOn net tx).value := rfl
  have hreport : (Payload.transaction (net.report time tx)).value =
      .obj ((net.report time tx).members.map fun m => (m.1, plainValue m.2)) := rfl
  rw [hclassified, hreport]
  intro key hkey
  simp only [verdictKeys, List.mem_cons, List.not_mem_nil, or_false] at hkey
  simp only [valueAt?, ClassifyReport.value, TxReport.members, List.map_cons, List.map_nil,
    verdictOn, Network.report, TxReport.ofTx, hscore, hlabel]
  rcases hkey with rfl | rfl | rfl | rfl | rfl | rfl <;>
    simp [List.lookup_cons, plainValue, natValue]

namespace Surroundings

/-- Asked for the hash by way of the client that is kept for the name, the node returns the transaction,
perhaps after some attempts that failed. -/
def Returns (s : Surroundings) (g : Gateway) (name : String) (hash : TxHash) (tx : PendingTx) : Prop :=
  ∃ last status body,
    ((g.clients.get g.registry name).1.ask s.node (.transaction hash)).1.attempts.getLast? =
      some last ∧
    s.node last = .answered status (some body) ∧ 200 ≤ status ∧ status ≤ 299 ∧ Rpc.Returns body tx

variable {s : Surroundings} {g : Gateway} {registry : Registry} {name : String} {tx : PendingTx}

theorem content_transaction (hwired : g.Wired registry) (hsound : registry.Sound) {raw : String}
    {hash : TxHash} (hhash : FixedBytes.parse? 32 (Text.trim raw) = some hash)
    (hreturns : s.Returns g name hash tx) :
    (s.transaction g name raw).1.content =
      .json (envelope (.ok (.transaction ((registry.resolve name).report (Int64.ofNat s.now) tx)))) := by
  obtain ⟨last, status, body, hlast, hnode, hlow, hhigh, hbody⟩ := hreturns
  obtain ⟨hnetwork, -⟩ := hwired.clients.get hsound name
  have houtcome := Rpc.Client.outcome_ask hlast
  rw [hnode, Rpc.Exchange.outcome_answered hlow hhigh, hbody.decode hash] at houtcome
  rw [← hwired.serves] at hnetwork ⊢
  unfold transaction
  simp only [hhash, houtcome, hnetwork]
  rfl

end Surroundings

def Request.Posts (r : Request) (name : String) (tx : PendingTx) : Prop :=
  ∃ body, r.json ClassifyBody.fields = .ok body ∧ body.Spells tx ∧ body.network.getD "" = name

theorem content_classify {s : Surroundings} {g : Gateway} {r : Request} {name : String}
    {tx : PendingTx} (h : r.Posts name tx) :
    (s.handle g r .classify).1.content =
      .json (envelope (.ok (.classified (verdictOn (g.registry.resolve name) tx)))) := by
  obtain ⟨body, hbody, hspells, rfl⟩ := h
  simp only [Surroundings.handle, hbody, classify, hspells.toTx]
  rfl

theorem Request.Carries.unread {s : Surroundings} {g : Gateway} {r : Request} {members : Members}
    (h : r.Carries members) (hsize : maxBodyBytes < r.body.utf8ByteSize) :
    s.handle g r .classify = (.unreadable 413, g) := by
  simp only [Surroundings.handle, h.json_of_long hsize]

/-- A transaction of a network is told of in the same words by the feed of the network, by a look-up of
its hash and, as far as its verdict goes, to a client that posts it in whatever spelling that is not too
long. The network may go by any of its names. -/
theorem verdicts_agree (networks : List Network) (defaultName name : String) (tx : PendingTx) :
    let registry := Registry.ofNetworks networks defaultName
    let report (time : Int64) := (registry.resolve name).report time tx
    (∀ (g g' : Gateway) connector id handle pump source lookup, g.registry = registry →
      g.subscribe connector id name = (.ok (handle, pump), g') →
      let sub : Feed.Subscription :=
        ⟨handle.network, g.limits, id, handle.endpointIndex, source, lookup⟩
      (Feed.Delivery.start sub).pump = pump ∧
      ∀ moves d, (Feed.Delivery.start sub).run? moves = some d →
        (∀ ticket seenAt d' tallies,
          d.step? (.settle ticket (.found tx seenAt)) = some (d', tallies) →
          d'.pump.window = d.pump.window.map fun slot =>
            if slot.holds ticket then .settled (some (.tx (report seenAt))) else slot) ∧
        ∀ told, .tx told ∈ d.got → ∃ ticket found seenAt, lookup ticket = .found found seenAt ∧
          told = (registry.resolve name).report seenAt found) ∧
    (∀ (g : Gateway) acts (s : Surroundings) r rawName rawHash decoded hash,
      g.registry = registry → g.clients = {} → Text.percentDecode? rawName = some name →
      Text.percentDecode? rawHash = some decoded →
      FixedBytes.parse? 32 (Text.trim decoded) = some hash →
      s.Returns (run g acts) name hash tx →
      (s.handle (run g acts) r (.transaction rawName rawHash)).1.content =
        .json (envelope (.ok (.transaction (report (Int64.ofNat s.now)))))) ∧
    (∀ (g : Gateway) (s : Surroundings) (r : Request), g.registry = registry → r.Posts name tx →
      ∃ verdict, (s.handle g r .classify).1.content =
          .json (envelope (.ok (.classified verdict))) ∧
        ∀ time, AgreeOn verdictKeys (Payload.classified verdict).value
          (Payload.transaction (report time)).value) ∧
    (∀ (r : Request) members (body : ClassifyBody), r.Carries members →
      r.body.utf8ByteSize ≤ maxBodyBytes → body.Written members.under →
      r.json ClassifyBody.fields = .ok body) ∧
    (∀ (g : Gateway) (s : Surroundings) (r : Request) members, r.Carries members →
      maxBodyBytes < r.body.utf8ByteSize → s.handle g r .classify = (.unreadable 413, g)) ∧
    ∀ time time', report time = { report time' with timestamp := time } := by
  intro registry report
  have hsound : registry.Sound := Registry.sound_ofNetworks networks defaultName
  refine ⟨?_, ?_, ?_, fun _ _ _ hcarries hsize hwritten => hcarries.json hsize hwritten.takes, ?_,
    fun _ _ => rfl⟩
  · intro g g' connector id handle pump source lookup hregistry hsubscribe sub
    obtain ⟨-, hnetwork, -⟩ := Gateway.subscribe_ok hsubscribe
    rw [hregistry] at hnetwork
    refine ⟨(Gateway.pump_of_subscribe hsubscribe).symm, fun moves d hrun => ⟨?_, ?_⟩⟩
    · intro ticket seenAt d' tallies hstep
      obtain ⟨-, pump', hmade, rfl⟩ := Feed.Delivery.step?_eq_some_iff.mp hstep
      have hpump : d.pump.network = registry.resolve name := by
        have hkept := Feed.Delivery.run?_sub hrun
        rw [(Feed.Delivery.Sound.run? hrun (Feed.Delivery.Sound.start sub)).network, hkept]
        exact hnetwork
      cases hmade
      rw [hpump]
      rfl
    · intro told htold
      obtain ⟨ticket, found, seenAt, hlookup, rfl⟩ := Feed.Delivery.tx_of_mem_got hrun htold
      exact ⟨ticket, found, seenAt, hlookup, by rw [← hnetwork]⟩
  · intro g acts s r rawName rawHash decoded hash hregistry hclients hname hdecoded hhash hreturns
    have hstart : g.Wired registry :=
      ⟨hregistry, hclients ▸ Rpc.Clients.faithful_empty registry⟩
    simp only [Surroundings.handle, hname, hdecoded]
    exact Surroundings.content_transaction (wired_run hstart hsound acts) hsound hhash hreturns
  · intro g s r hregistry hposts
    refine ⟨_, content_classify hposts, fun time => ?_⟩
    rw [hregistry]
    exact agreeOn_verdictKeys (registry.resolve name) tx time
  · exact fun _ _ _ _ => Request.Carries.unread

def sampleTx : PendingTx :=
  { hash := .filled 32 0x11, sender := .filled 20 0x22, recipient := none
    value := ⟨2000000000000000000, by decide⟩, input := [0x09, 0x5e, 0xa7, 0xb3]
    gasLimit := 600000 }

def sampleHash : String :=
  "1111111111111111111111111111111111111111111111111111111111111111"

def sampleResult : List (String × Plain) :=
  [("hash", .str sampleHash), ("from", .str "2222222222222222222222222222222222222222"),
    ("value", .str "0x1BC16D674EC80000"), ("input", .str "0x095ea7b3"), ("gas", .str "0x0927c0")]

theorem under_sampleResult {key s : String}
    (h : (sampleResult.filter fun m => m.1 = key) = [(key, .str s)]) :
    (Members.ofPlain sampleResult).under key = [.str (some s)] := by
  rw [Members.under_ofPlain, h]
  rfl

theorem denotes_hexDigits {cs : List Char} {n : Nat} (h : digitsFrom? 16 hexDigit? 0 cs = some n) :
    Denotes 16 cs n :=
  (digitsFrom?_eq_some_iff reads_hexDigit?).mp h

theorem tells_sampleResult : Rpc.Tells (Members.ofPlain sampleResult).under sampleTx where
  hash := ⟨sampleHash, under_sampleResult (by decide), hexBytes?_eq_some_iff.mp (by decide +kernel)⟩
  sender := ⟨"2222222222222222222222222222222222222222", under_sampleResult (by decide),
    hexBytes?_eq_some_iff.mp (by decide +kernel)⟩
  recipient := by
    refine .inl ⟨rfl, .inl ?_⟩
    have hnone : (sampleResult.filter fun m => m.1 = "to") = [] := by decide
    rw [Members.under_ofPlain, hnone]
    rfl
  value := ⟨"0x1BC16D674EC80000", under_sampleResult (by decide), "1BC16D674EC80000".toList,
    by decide, by decide, denotes_hexDigits (by decide +kernel)⟩
  payload := .inr ⟨"0x095ea7b3", under_sampleResult (by decide),
    hexBytes?_eq_some_iff.mp (by decide +kernel)⟩
  gasLimit := ⟨"0x0927c0", under_sampleResult (by decide), "0927c0".toList, by decide, by decide,
    denotes_hexDigits (by decide +kernel)⟩

theorem returns_sampleResult :
    Rpc.Returns (String.ofList (writeAround "result" sampleResult)) sampleTx := by
  refine ⟨_, .ofPlain sampleResult, Doc.only_writeAround "result" (List.cons_ne_nil _ _), ?_, rfl, ?_,
    .inl ?_, Members.isWhole_ofPlain _, Members.isKeyed_ofPlain _, tells_sampleResult⟩
  · have hwhole := Members.isWhole_ofPlain sampleResult
    simp only [Members.isWhole, Doc.isWhole, hwhole, Bool.and_self]
  · rw [Members.under_cons, if_pos rfl]
    rfl
  · rw [Members.under_cons, if_neg (by decide)]
    rfl

def localGateway : Gateway :=
  .start {} (.ofNetworks [⟨"ethereum", 1, "Ethereum", "ETH", "http://[::1]", ["ws://[::1]"], ""⟩] "")

def localSurroundings : Surroundings :=
  { restingSurroundings with
    node := fun _ => .answered 200 (some (String.ofList (writeAround "result" sampleResult)))
    connector := ⟨fun _ => .ok (), fun _ => .ok (), 0⟩ }

theorem returns_localSurroundings :
    localSurroundings.Returns localGateway "1" (.filled 32 0x11) sampleTx := by
  have hurl : checkEndpoint (localGateway.clients.get localGateway.registry "1").1.network.httpUrl =
      .ok () := by decide +kernel
  have houtcome : ((Rpc.Exchange.answered 200
      (some (String.ofList (writeAround "result" sampleResult)))).outcome
        (Rpc.Query.transaction (.filled 32 0x11)).decode) = .ok (some sampleTx) :=
    (Rpc.Exchange.outcome_answered (by decide) (by decide) _).trans (returns_sampleResult.decode _)
  have hattempts : ((localGateway.clients.get localGateway.registry "1").1.ask localSurroundings.node
      (.transaction (.filled 32 0x11))).1.attempts = _ := Rpc.Client.attempts_ask_of_ok hurl houtcome
  exact ⟨_, 200, _, (congrArg List.getLast? hattempts).trans List.getLast?_singleton, rfl, by decide,
    by decide, returns_sampleResult⟩

def sampleMembers : List (String × Plain) :=
  [("from", .str " 0x2222222222222222222222222222222222222222 "), ("to", .str " "),
    ("value", .str "2000000000000000000"), ("data", .str "095EA7B3"), ("gas_limit", .int 600000),
    ("network", .str "1")]

def sampleBody : ClassifyBody :=
  ⟨" 0x2222222222222222222222222222222222222222 ", some " ", some "2000000000000000000",
    some "095EA7B3", 600000, some "1"⟩

theorem written_sampleBody : sampleBody.Written (Members.ofPlain sampleMembers).under := by
  constructor <;> simp only [Members.under_ofPlain, sampleMembers, sampleBody] <;> simp [Plain.doc]
  · exact .text _
  · exact .text _
  · exact .text _
  · exact .number (value?_numeralOf (by decide) (by decide))
  · exact .text _

theorem spells_sampleBody : sampleBody.Spells sampleTx where
  sender := spellsAddress_iff.mpr (by decide +kernel)
  recipient := by
    rintro s ⟨⟩
    exact List.all_eq_true.mp (by decide)
  value := readWei_eq_ok_iff.mp (by decide +kernel)
  payload := readPayload_eq_ok_iff.mp (by decide +kernel)
  gasLimit := rfl

def sampleFeed : Feed.Subscription :=
  { network := localGateway.registry.resolve "1", limits := localGateway.limits
    sessionId := .filled 16 1, endpointIndex := 0, source := [.hash sampleTx.hash]
    lookup := fun _ => .found sampleTx 5 }

def sampleMoves : List Feed.Move :=
  [.receive, .pull (.hash sampleTx.hash), .settle 0 (.found sampleTx 5), .take, .send, .receive]

theorem verdicts_agree_sampleTx : ∃ d told verdict,
    (Feed.Delivery.start sampleFeed).run? sampleMoves = some d ∧ .tx told ∈ d.got ∧
    (localSurroundings.handle localGateway ⟨"GET", "", "", [], ""⟩
        (.transaction "1" sampleHash)).1.content =
      .json (envelope (.ok (.transaction { told with timestamp := 1 }))) ∧
    (localSurroundings.handle localGateway (jsonPost "/v1/classify" sampleMembers) .classify).1.content =
      .json (envelope (.ok (.classified verdict))) ∧
    AgreeOn verdictKeys (Payload.classified verdict).value (Payload.transaction told).value := by
  obtain ⟨hfeed, hlookup, hpost, hjson, -, hsame⟩ := verdicts_agree
    [⟨"ethereum", 1, "Ethereum", "ETH", "http://[::1]", ["ws://[::1]"], ""⟩] "" "1" sampleTx
  -- the feed
  have hgot : ((Feed.Delivery.start sampleFeed).run? sampleMoves).map (·.got) =
      some [Feed.Pump.greeting sampleFeed.network (.filled 16 1) 0,
        .tx (sampleFeed.network.report 5 sampleTx)] := rfl
  obtain ⟨d, hrun, hevents⟩ := Option.map_eq_some_iff.mp hgot
  have htold : .tx (sampleFeed.network.report 5 sampleTx) ∈ d.got := by
    rw [hevents]
    exact List.mem_cons_of_mem _ List.mem_cons_self
  have hsubscribed : (localGateway.subscribe localSurroundings.connector (.filled 16 1) "1").1 =
      .ok (⟨⟨sampleFeed.network, 0, 0⟩, .filled 16 1, false⟩,
        .start sampleFeed.network localGateway.limits (.filled 16 1) 0) := by
    decide +kernel
  obtain ⟨-, hmoves⟩ := hfeed localGateway _ localSurroundings.connector (.filled 16 1) _ _
    sampleFeed.source sampleFeed.lookup rfl (Prod.ext hsubscribed rfl)
  obtain ⟨-, htells⟩ := hmoves sampleMoves d hrun
  obtain ⟨ticket, found, seenAt, hfound, hreport⟩ := htells _ htold
  cases hfound
  -- the look-up
  have hanswer := hlookup localGateway [] localSurroundings ⟨"GET", "", "", [], ""⟩ "1" sampleHash
    sampleHash (.filled 32 0x11) rfl rfl (by decide +kernel) (by decide +kernel)
    (by decide +kernel) returns_localSurroundings
  -- the description
  have hcarries : (jsonPost "/v1/classify" sampleMembers).Carries (.ofPlain sampleMembers) :=
    carries_jsonPost _ (List.cons_ne_nil _ _)
  have hposted := hjson _ _ sampleBody hcarries (by decide +kernel) written_sampleBody
  obtain ⟨verdict, hverdict, hagree⟩ := hpost localGateway localSurroundings _ rfl
    ⟨sampleBody, hposted, spells_sampleBody, rfl⟩
  have htime : Int64.ofNat localSurroundings.now = 1 := by decide +kernel
  rw [hsame _ 5, htime] at hanswer
  rw [hreport] at htold
  exact ⟨d, _, verdict, hrun, htold, hanswer, hverdict, hagree 5⟩

/-- The same description with two mebibytes of blanks after it gets no verdict. -/
theorem unread_paddedDescription :
    let r := (jsonPost "/v1/classify" sampleMembers).padded 2097152
    r.Carries (.ofPlain sampleMembers) ∧ sampleBody.Written (Members.ofPlain sampleMembers).under ∧
      sampleBody.Spells sampleTx ∧ maxBodyBytes < r.body.utf8ByteSize ∧
      localSurroundings.handle localGateway r .classify = (.unreadable 413, localGateway) ∧
      ∀ value, (localSurroundings.handle localGateway r .classify).1.content ≠ .json value := by
  have hmembers : sampleMembers ≠ [] := List.cons_ne_nil _ _
  have hcarries := carries_padded "/v1/classify" hmembers 2097152
  have hsize : maxBodyBytes <
      ((jsonPost "/v1/classify" sampleMembers).padded 2097152).body.utf8ByteSize := by
    have hbody : 0 < (jsonPost "/v1/classify" sampleMembers).body.utf8ByteSize := by decide +kernel
    have hmax : maxBodyBytes = 2097152 := by decide
    rw [utf8ByteSize_padded, hmax]
    exact Nat.lt_add_of_pos_left hbody
  have hunread := hcarries.unread (s := localSurroundings) (g := localGateway) hsize
  refine ⟨hcarries, written_sampleBody, spells_sampleBody, hsize, hunread, fun value hcontent => ?_⟩
  rw [hunread] at hcontent
  cases hcontent

end Http

end MempoolGate
