import MempoolGate.Proofs.Rpc.Envelope

namespace MempoolGate.Rpc

variable {α : Type}

inductive Expiry
  /-- No answer has begun. -/
  | waiting
  /-- The head of an answer of success is there, but not all of its body. -/
  | reading (status : Nat) (low : 200 ≤ status) (high : status ≤ 299)

namespace Expiry

def exchange : Expiry → Exchange
  | waiting => .stalled
  | reading status _ _ => .answered status none

def error : Expiry → GatewayError
  | waiting => { code := .rpcTimeout, message := "Request timeout" }
  | reading .. => garbledReply

theorem outcome_exchange (expiry : Expiry) (decode : String → Except GatewayError α) :
    expiry.exchange.outcome decode = .error expiry.error := by
  cases expiry with
  | waiting => rfl
  | reading status low high =>
    rw [exchange, Exchange.outcome, if_neg (by omega), if_pos ⟨low, high⟩]
    rfl

theorem isTransient_error_iff (expiry : Expiry) :
    isTransient expiry.error.code = true ↔ expiry = waiting := by
  cases expiry with
  | waiting => exact iff_of_true rfl rfl
  | reading => exact iff_of_false nofun nofun

end Expiry

namespace Question

variable {q : Question α} {node : Node} {url : String} {id : UInt64} {count : Nat} {call : Call α}

theorem Tried.request_eq (h : q.Tried node url id count call) {k : Nat} {request : Request}
    (hk : call.attempts[k]? = some request) : k < count ∧ request = q.request url id (k + 1) := by
  rw [h.attempts, List.getElem?_map, Option.map_eq_some_iff] at hk
  obtain ⟨number, hnumber, rfl⟩ := hk
  obtain ⟨hlt, rfl⟩ := List.getElem?_eq_some_iff.mp hnumber
  rw [List.length_range'] at hlt
  rw [List.getElem_range', Nat.one_mul, Nat.add_comm]
  exact ⟨hlt, rfl⟩

theorem Tried.length_attempts (h : q.Tried node url id count call) : call.attempts.length = count := by
  rw [h.attempts, List.length_map, List.length_range']

theorem Tried.of_expiry (h : q.Tried node url id count call) {k : Nat} {request : Request}
    (hk : call.attempts[k]? = some request) {expiry : Expiry} (hnode : node request = expiry.exchange) :
    (k + 1 < call.attempts.length ∧ expiry = .waiting) ∨
      (k + 1 = call.attempts.length ∧ call.outcome = .error expiry.error ∧
        (expiry = .waiting → call.attempts.length = 3)) := by
  obtain ⟨hlt, rfl⟩ := h.request_eq hk
  have hpasses : (node (q.request url id (k + 1))).Passes q.reader ↔ expiry = .waiting := by
    rw [q.passes_iff, hnode]
    simp only [expiry.outcome_exchange, Except.error.injEq, exists_eq_left',
      expiry.isTransient_error_iff]
  rw [h.length_attempts]
  rcases Nat.lt_or_eq_of_le (Nat.succ_le_of_lt hlt) with hmore | rfl
  · exact .inl ⟨hmore, hpasses.mp (h.earlier (k + 1) (Nat.succ_pos k) hmore)⟩
  · refine .inr ⟨rfl, ?_, fun hwaiting => (h.last (hpasses.mpr hwaiting)).1⟩
    rw [h.outcome, hnode, expiry.outcome_exchange]

/-- A question fails for want of time only if no answer to it began in time. -/
theorem stalled_of_outcome {x : Exchange} {e : GatewayError}
    (h : x.outcome q.query.decode = .error e) (hcode : e.code = .rpcTimeout) : x = .stalled := by
  have htransient : isTransient e.code = true := by rw [hcode]; rfl
  cases (q.passes_iff x).mpr ⟨e, h, htransient⟩ with
  | stalled => rfl
  | refused =>
    cases h
    cases hcode
  | tooMany body =>
    cases h
    cases hcode
  | @rateLimited status text result e' low high reads limit =>
    have hdecode : q.query.decode text = .error e'.toError := by
      simp only [query, decodeReply_of_error reads]
      rfl
    rw [Exchange.outcome_answered low high, hdecode] at h
    cases h
    rw [e'.code_toError] at hcode
    split at hcode <;> cases hcode

end Question

/-- How a call comes to an end if the time runs out for some attempts of it. -/
structure Query.Expires (q : Query α) (c : Client) (node : Node) : Prop where
  atMost : (c.ask node q).1.attempts.length ≤ 3
  waiting : ∀ k request, (c.ask node q).1.attempts[k]? = some request →
    node request = Expiry.waiting.exchange →
    (k + 1 < 3 → k + 1 < (c.ask node q).1.attempts.length) ∧
      (k + 1 = 3 → (c.ask node q).1.outcome = .error Expiry.waiting.error)
  reading : ∀ k request status low high, (c.ask node q).1.attempts[k]? = some request →
    node request = (Expiry.reading status low high).exchange →
    (c.ask node q).1.attempts.length = k + 1 ∧ (c.ask node q).1.outcome = .error garbledReply
  timeout : ∀ e, (c.ask node q).1.outcome = .error e → e.code = .rpcTimeout →
    ∃ request, (c.ask node q).1.attempts[2]? = some request ∧
      node request = Expiry.waiting.exchange

theorem Question.expires (q : Question α) (c : Client) (node : Node) : q.query.Expires c node := by
  have hended := q.ended_ask node c
  unfold Ended at hended
  split at hended
  · obtain ⟨count, htried⟩ := hended
    have hlength := htried.length_attempts
    have hcount := htried.atMost
    refine ⟨hlength ▸ hcount, fun k request hk hnode => ?_, fun k request status low high hk hnode => ?_,
      fun e houtcome hcode => ?_⟩
    · rcases htried.of_expiry hk hnode with ⟨hmore, -⟩ | ⟨hlast, houtcome, hthird⟩
      · exact ⟨fun _ => hmore, fun hk => by omega⟩
      · have hall := hthird rfl
        exact ⟨fun hk => by omega, fun _ => houtcome⟩
    · rcases htried.of_expiry hk hnode with ⟨-, ⟨⟩⟩ | ⟨hlast, houtcome, -⟩
      exact ⟨hlast.symm, houtcome⟩
    · rw [htried.outcome] at houtcome
      have hstalled := stalled_of_outcome houtcome hcode
      have hpasses : (node (q.request c.network.httpUrl c.nextId count)).Passes q.reader := by
        rw [hstalled]
        exact .stalled
      obtain ⟨rfl, -⟩ := htried.last hpasses
      refine ⟨_, ?_, hstalled⟩
      rw [htried.attempts]
      rfl
  · -- no attempt is made
    constructor <;> rw [hended]
    · exact Nat.zero_le 3
    · exact nofun
    · exact nofun
    · intro e houtcome hcode
      cases houtcome
      cases hcode

/-- Whatever is asked: an attempt for which the time runs out before an answer begins is followed by
another one, up to the third, and after that the call fails for want of time; one for which it runs out
within the body of an answer of success ends the call with an invalid response, however many attempts are
left. No other call fails for want of time. -/
theorem expires_ask (c : Client) (node : Node) (address : Address) (hash : TxHash) (method : String)
    (params : Json.Value) :
    Query.chainId.Expires c node ∧ Query.blockNumber.Expires c node ∧ Query.gasPrice.Expires c node ∧
      (Query.balance address).Expires c node ∧ (Query.nonce address).Expires c node ∧
      (Query.code address).Expires c node ∧ Query.baseFee.Expires c node ∧
      (Query.transaction hash).Expires c node ∧ (Query.raw method params).Expires c node ∧
      Expiry.waiting.error.code = .rpcTimeout ∧ Expiry.waiting.error.code.httpStatus = 504 ∧
      garbledReply.code = .rpcInvalidResponse ∧ garbledReply.code.httpStatus = 502 := by
  have hexpires : ∀ {α : Type} {q : Query α}, q.IsQuestion → q.Expires c node := by
    rintro α _ ⟨question, rfl⟩
    exact question.expires c node
  obtain ⟨hchainId, hblockNumber, hgasPrice, hbalance, hnonce, hcode, hbaseFee, htransaction, hraw⟩ :=
    Query.isQuestion address hash method params
  exact ⟨hexpires hchainId, hexpires hblockNumber, hexpires hgasPrice, hexpires hbalance,
    hexpires hnonce, hexpires hcode, hexpires hbaseFee, hexpires htransaction, hexpires hraw, rfl, rfl,
    rfl, rfl⟩

def slowNode (expiries : List Expiry) : Node := fun request =>
  match expiries[request.attempt - 1]? with
  | some expiry => expiry.exchange
  | none => .refused

theorem expires_ask_slowNode :
    let client : Client :=
      { serial := 0, network := { Network.placeholder with httpUrl := "http://[::1]" } }
    let node := slowNode [.waiting, .waiting, .waiting]
    ∃ request, (client.ask node .chainId).1.attempts[2]? = some request ∧
      node request = Expiry.waiting.exchange ∧
      (client.ask node .chainId).1.outcome = .error Expiry.waiting.error := by
  intro client node
  have hthird : ((client.ask node .chainId).1.attempts[2]?.map node) =
      some Expiry.waiting.exchange := by decide +kernel
  obtain ⟨request, hrequest, hnode⟩ := Option.map_eq_some_iff.mp hthird
  obtain ⟨hexpires, -⟩ :=
    expires_ask client node (.filled 20 0) (.filled 32 0) "eth_syncing" (.arr [])
  exact ⟨request, hrequest, hnode, (hexpires.waiting 2 request hrequest hnode).2 rfl⟩

/-- Time that runs out within a body is not told as such, and costs the call its other attempts. -/
theorem ask_slowBody :
    let client : Client :=
      { serial := 0, network := { Network.placeholder with httpUrl := "http://[::1]" } }
    let call := (client.ask (slowNode [.reading 200 (by decide) (by decide)]) .chainId).1
    call.attempts.length = 1 ∧ call.outcome = .error garbledReply ∧
      ¬(call.attempts.length = 3 ∨ call.outcome = .error Expiry.waiting.error) := by
  decide +kernel

end MempoolGate.Rpc
