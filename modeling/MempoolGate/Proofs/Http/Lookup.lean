import MempoolGate.Proofs.Http.Agreement
import MempoolGate.Proofs.Http.Charging
import MempoolGate.Proofs.Rpc.Envelope

namespace MempoolGate

theorem ErrorCode.httpStatus_eq_404_iff {code : ErrorCode} :
    code.httpStatus = 404 ↔ code = .apiNotFound := by
  cases code <;> decide

theorem ErrorCode.httpStatus_ne_200 (code : ErrorCode) : code.httpStatus ≠ 200 := by
  cases code <;> decide

namespace Rpc

variable {α β : Type}

def IsUpstream (outcome : Except GatewayError α) : Prop :=
  ∀ e, outcome = .error e → e.code ≠ .apiNotFound

theorem isUpstream_ok (a : α) : IsUpstream (.ok a) :=
  nofun

theorem isUpstream_error {e : GatewayError} (h : e.code ≠ .apiNotFound) :
    IsUpstream (.error e : Except GatewayError α) := by
  rintro _ ⟨⟩
  exact h

theorem NodeTx.isUpstream_toPending (tx : NodeTx) : IsUpstream (tx.toPending.map some) := by
  rcases tx.checked_toPending.map some with ⟨-, a, h⟩ | ⟨s, -, h⟩
  · rw [h]
    exact isUpstream_ok a
  · rw [h]
    exact isUpstream_error nofun

theorem Query.Judges.isUpstream {q : Query α} {R : Json.Doc → β → Prop}
    {finish : β → Except GatewayError α} {absent : Except GatewayError α} (h : q.Judges R finish absent)
    (hfinish : ∀ b, IsUpstream (finish b)) (habsent : IsUpstream absent) (body : String) :
    IsUpstream (q.decode body) := by
  have hx : (Exchange.answered 200 (some body)).Brings body := ⟨200, rfl, by decide, by decide⟩
  rw [← hx.outcome q.decode]
  by_cases hbody : ∃ result error, IsEnvelope R body result error
  · obtain ⟨result, error, henvelope⟩ := hbody
    cases error with
    | some e =>
      rw [h.failed _ body result e hx henvelope]
      refine isUpstream_error ?_
      rw [e.code_toError]
      split <;> exact nofun
    | none =>
      cases result with
      | some b =>
        rw [h.found _ body b hx henvelope]
        exact hfinish b
      | none =>
        rw [h.missing _ body hx henvelope]
        exact habsent
  · rw [h.garbled _ body hx fun result error henvelope => hbody ⟨result, error, henvelope⟩]
    exact isUpstream_error nofun

theorem Exchange.isUpstream {decode : String → Except GatewayError α}
    (h : ∀ body, IsUpstream (decode body)) (x : Exchange) : IsUpstream (x.outcome decode) := by
  cases x with
  | refused | stalled | broken => exact isUpstream_error nofun
  | answered status body =>
    unfold outcome
    dsimp only
    split
    · exact isUpstream_error nofun
    · split
      · cases body with
        | none => exact isUpstream_error nofun
        | some text => exact h text
      · exact isUpstream_error nofun

theorem Client.isUpstream {q : Query α} (h : ∀ body, IsUpstream (q.decode body)) (c : Client)
    (node : Node) : IsUpstream (c.ask node q).1.outcome := by
  cases hlast : (c.ask node q).1.attempts.getLast? with
  | some last =>
    rw [outcome_ask hlast]
    exact (node last).isUpstream h
  | none =>
    -- no attempt is made only to an address that cannot be asked
    unfold ask call at hlast ⊢
    dsimp only at hlast ⊢
    split at hlast
    · exact isUpstream_error nofun
    · exact absurd (List.getLast?_eq_none_iff.mp hlast) (attempts_tryCall_ne_nil _ _ _)

end Rpc

namespace Http

open Json Rpc Text

def SpellsHash (hash : TxHash) (s : String) : Prop :=
  ∃ cs, Padded s cs ∧ SpellsBytes hash.bytes cs

theorem spellsHash_iff {hash : TxHash} {s : String} :
    SpellsHash hash s ↔ FixedBytes.parse? 32 (trim s) = some hash := by
  rw [FixedBytes.parse?_eq_some_iff, SpellsHash, exists_padded_iff fun _ hcs => hcs.isBlank]

namespace Surroundings

def lookup (s : Surroundings) (g : Gateway) (name : String) (hash : TxHash) :
    Call (Option PendingTx) :=
  ((g.clients.get g.registry name).1.ask s.node (.transaction hash)).1

variable {s : Surroundings} {g : Gateway} {name raw : String} {hash : TxHash}

theorem transaction_outcome (s : Surroundings) (g : Gateway) (name : String)
    (hhash : SpellsHash hash raw) :
    ((s.transaction g name raw).1.status = 404 ↔ (s.lookup g name hash).outcome = .ok none) ∧
      ((s.transaction g name raw).1.status = 200 ↔
        ∃ p, (s.lookup g name hash).outcome = .ok (some p)) := by
  have hupstream : IsUpstream (s.lookup g name hash).outcome :=
    Client.isUpstream ((Query.judges_transaction hash).isUpstream NodeTx.isUpstream_toPending
      (isUpstream_ok none)) _ s.node
  -- the pairs are opened as variables, so that no call is run to open them
  unfold transaction
  rewrite [spellsHash_iff.mp hhash]
  unfold lookup at hupstream ⊢
  generalize g.clients.get g.registry name = served at hupstream ⊢
  obtain ⟨client, clients⟩ := served
  dsimp only at hupstream ⊢
  generalize client.ask s.node (.transaction hash) = asked at hupstream ⊢
  obtain ⟨call, client'⟩ := asked
  dsimp only at hupstream ⊢
  cases houtcome : call.outcome with
  | error e =>
    have hcode := hupstream e houtcome
    constructor
    · exact iff_of_false (fun h => hcode (ErrorCode.httpStatus_eq_404_iff.mp h)) nofun
    · refine iff_of_false (ErrorCode.httpStatus_ne_200 e.code) ?_
      rintro ⟨p, ⟨⟩⟩
  | ok found =>
    cases found with
    | none =>
      refine ⟨iff_of_true rfl rfl, iff_of_false (ErrorCode.httpStatus_ne_200 .apiNotFound) ?_⟩
      rintro ⟨p, ⟨⟩⟩
    | some p => exact ⟨iff_of_false nofun nofun, iff_of_true rfl ⟨p, rfl⟩⟩

theorem transaction_spec (s : Surroundings) (g : Gateway) (name : String) (hhash : SpellsHash hash raw) :
    ((s.transaction g name raw).1.status = 404 ↔
      ∃ body, (s.lookup g name hash).DecidedBy s.node body ∧ IsEnvelope IsTx body none none) ∧
    ((s.transaction g name raw).1.status = 200 ↔ ∃ body tx p,
      (s.lookup g name hash).DecidedBy s.node body ∧ IsEnvelope IsTx body (some tx) none ∧
        tx.Means p) := by
  obtain ⟨hmissing, hfound⟩ := s.transaction_outcome g name hhash
  rw [hmissing, hfound]
  unfold lookup
  generalize (g.clients.get g.registry name).1 = client
  refine ⟨Client.outcome_transaction_eq_none_iff, ?_⟩
  constructor
  · rintro ⟨p, hp⟩
    obtain ⟨body, tx, h⟩ := Client.outcome_transaction_eq_some_iff.mp hp
    exact ⟨body, tx, p, h⟩
  · rintro ⟨body, tx, p, h⟩
    exact ⟨p, Client.outcome_transaction_eq_some_iff.mpr ⟨body, tx, h⟩⟩

theorem lookup_validate (s : Surroundings) (g : Gateway) (now : Nat) (key : Option String) :
    s.lookup (g.validate now key).2 name hash = s.lookup g name hash := by
  unfold Gateway.validate
  split <;> rfl

/-- What the answer to a look-up says: there is no transaction exactly if the reply that decides the call
is an envelope with neither an error nor a result, and there is one exactly if everything in the result
of such an envelope could be read. -/
structure LookedUp (s : Surroundings) (g : Gateway) (r : Request) (name : String) (hash : TxHash) :
    Prop where
  missing : (s.respond g r).1.status = 404 ↔ s.Admits g r ∧
    ∃ body, (s.lookup g name hash).DecidedBy s.node body ∧ IsEnvelope IsTx body none none
  found : (s.respond g r).1.status = 200 ↔ s.Admits g r ∧
    ∃ body tx p, (s.lookup g name hash).DecidedBy s.node body ∧
      IsEnvelope IsTx body (some tx) none ∧ tx.Means p

theorem lookedUp {r : Request} {rawName rawHash decoded : String} (hs : g.store.Indexed)
    (hout : g.outage = none) (hroute : Route.ofPath? r.path = some (.transaction rawName rawHash))
    (hmethod : r.method ∈ ["GET", "HEAD"]) (hname : percentDecode? rawName = some name)
    (hdecoded : percentDecode? rawHash = some decoded) (hhash : SpellsHash hash decoded) :
    s.LookedUp g r name hash := by
  obtain ⟨verdict, hverdict, hrespond⟩ := respond_of_isCharged (s := s) hs hout hroute rfl hmethod
  cases verdict with
  | rejected reason =>
    have hnot : ¬s.Admits g r := by
      rintro ⟨call, hcall⟩
      cases hverdict.symm.trans hcall
    have hstatus : refusalStatus reason ≠ 404 ∧ refusalStatus reason ≠ 200 := by
      cases reason <;> simp [refusalStatus]
    constructor
    · rw [hrespond.status]
      exact iff_of_false hstatus.1 fun h => hnot h.1
    · rw [hrespond.status]
      exact iff_of_false hstatus.2 fun h => hnot h.1
  | valid call =>
    have hadmits : s.Admits g r := ⟨call, hverdict⟩
    obtain ⟨hmissing, hfound⟩ :=
      s.transaction_spec (g.validate s.now r.presentedKey).2 name hhash
    rw [lookup_validate] at hmissing hfound
    have hhandle : (s.respond g r).1.status =
        (s.transaction (g.validate s.now r.presentedKey).2 name decoded).1.status := by
      rw [hrespond.status]
      simp only [handle, hname, hdecoded]
    constructor
    · rw [hhandle, hmissing, and_iff_right hadmits]
    · rw [hhandle, hfound, and_iff_right hadmits]

end Surroundings

/-- Whatever is asked of a node, a reply of success that is no envelope is an invalid response, an error
goes before a result, and for want of both only a transaction is said not to be there. The last reply
decides the call, and a look-up is answered accordingly. -/
theorem replies_told (address : Address) (hash : TxHash) (method : String) (params : Value) :
    (∀ q ∈ [Query.chainId, .blockNumber, .nonce address], q.Judges IsText quantityWord
      (.error (.invalidResponse "No result in response"))) ∧
    (∀ q ∈ [Query.gasPrice, .balance address], q.Judges IsText quantityWei
      (.error (.invalidResponse "No result in response"))) ∧
    (Query.code address).Judges IsBytes .ok
      (.error (.invalidResponse "No result in response")) ∧
    Query.baseFee.Judges IsBlockHead BlockHead.latest
      (.error (.invalidResponse "Latest block missing")) ∧
    (Query.transaction hash).Judges IsTx (fun tx => tx.toPending.map some) (.ok none) ∧
    (Query.raw method params).Judges (IsValue (maxDepth - 1)) .ok (.ok .null) ∧
    (∀ e : NodeError, e.toError.code = if e.isRateLimit then .rpcRateLimited else .rpcError) ∧
    (∀ (α : Type) (q : Query α) (c : Client) (node : Node) last,
      (c.ask node q).1.attempts.getLast? = some last →
      (c.ask node q).1.outcome = (node last).outcome q.decode) ∧
    ∀ (s : Surroundings) (g : Gateway) (r : Request) rawName rawHash name decoded,
      g.store.Reachable → g.outage = none →
      Route.ofPath? r.path = some (.transaction rawName rawHash) → r.method ∈ ["GET", "HEAD"] →
      percentDecode? rawName = some name → percentDecode? rawHash = some decoded →
      SpellsHash hash decoded → s.LookedUp g r name hash := by
  refine ⟨fun q hq => ?_, fun q hq => ?_, Query.judges_code address, Query.judges_baseFee,
    Query.judges_transaction hash, Query.judges_raw method params, NodeError.code_toError,
    fun _ _ _ _ _ hlast => Client.outcome_ask hlast, ?_⟩
  · simp only [List.mem_cons, List.not_mem_nil, or_false] at hq
    rcases hq with rfl | rfl | rfl <;> exact Query.judges_ofText
  · simp only [List.mem_cons, List.not_mem_nil, or_false] at hq
    rcases hq with rfl | rfl <;> exact Query.judges_ofText
  · intro s g r rawName rawHash name decoded hs hout hroute hmethod hname hdecoded hhash
    exact Surroundings.lookedUp hs.indexed hout hroute hmethod hname hdecoded hhash

def keyedGateway : Gateway :=
  { localGateway with store := KeyStore.empty.run KeyStore.twoLeft }

def emptySurroundings : Surroundings :=
  { restingSurroundings with node := fun _ => .answered 200 (some "\x7b\"result\":null\x7d") }

def keyedLookup : Request :=
  ⟨"GET", "/v1/networks/1/tx/" ++ sampleHash, "", [("X-Api-Key", "sg_gold")], ""⟩

theorem replies_told_keyedLookup :
    keyedGateway.store.Reachable ∧ keyedGateway.outage = none ∧
      (emptySurroundings.respond keyedGateway keyedLookup).1.status = 404 ∧
      emptySurroundings.Admits keyedGateway keyedLookup ∧
      ∃ body, (emptySurroundings.lookup keyedGateway "1" (.filled 32 0x11)).DecidedBy
        emptySurroundings.node body ∧ IsEnvelope IsTx body none none := by
  have hreachable : keyedGateway.store.Reachable := ⟨KeyStore.twoLeft, by decide +kernel, rfl⟩
  have hstatus : (emptySurroundings.respond keyedGateway keyedLookup).1.status = 404 := by
    decide +kernel
  obtain ⟨-, -, -, -, -, -, -, -, hlookup⟩ :=
    replies_told (.filled 20 0) (.filled 32 0x11) "eth_syncing" (.arr [])
  have hhash : SpellsHash (.filled 32 0x11) sampleHash := spellsHash_iff.mpr (by decide +kernel)
  have hlooked := hlookup emptySurroundings keyedGateway keyedLookup "1" sampleHash "1" sampleHash
    hreachable rfl (by decide +kernel) (by decide) (by decide +kernel) (by decide +kernel) hhash
  exact ⟨hreachable, rfl, hstatus, hlooked.missing.mp hstatus⟩

/-- An error may be an array of its code and its message, and is none if its code has more than 64
bits. -/
theorem outcome_strayErrors :
    let client : Client :=
      { serial := 0, network := { Network.placeholder with httpUrl := "http://[::1]" } }
    let node (body : String) : Node := fun _ => .answered 200 (some body)
    (client.ask (node "\x7b\"error\":[1,\"m\"]\x7d") .chainId).1.outcome =
        .error { code := .rpcError, message := "RPC error: m (code: 1)" } ∧
      (client.ask (node
          "\x7b\"error\":\x7b\"code\":9223372036854775808,\"message\":\"m\"\x7d\x7d")
        .chainId).1.outcome = .error garbledReply := by
  decide +kernel

end Http

end MempoolGate
