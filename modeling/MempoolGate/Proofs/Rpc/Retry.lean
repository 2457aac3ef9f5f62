import MempoolGate.Proofs.Rpc.Quantity
import MempoolGate.Proofs.Text.Lowercase
import MempoolGate.Rpc.Client

namespace MempoolGate.Rpc

open Json

variable {α β : Type}

def Lasts (outcome : Except GatewayError α) : Prop :=
  ∀ e, outcome = .error e → isTransient e.code = false

theorem lasts_ok (a : α) : Lasts (.ok a) :=
  nofun

theorem lasts_error {e : GatewayError} (h : isTransient e.code = false) :
    Lasts (.error e : Except GatewayError α) := by
  rintro _ ⟨⟩
  exact h

theorem Lasts.bind {outcome : Except GatewayError β} {f : β → Except GatewayError α}
    (h : Lasts outcome) (hf : ∀ b, Lasts (f b)) : Lasts (outcome >>= f) := by
  cases outcome with
  | error e => exact lasts_error (h e rfl)
  | ok b => exact hf b

theorem Lasts.map {outcome : Except GatewayError β} (h : Lasts outcome) (f : β → α) :
    Lasts (outcome.map f) := by
  cases outcome with
  | error e => exact lasts_error (h e rfl)
  | ok b => exact lasts_ok (f b)

theorem lasts_quantityWord (raw : String) : Lasts (quantityWord raw) := by
  rcases quantityWord_cases raw with ⟨w, h⟩ | h
  · rw [h]
    exact lasts_ok w
  · rw [h]
    exact lasts_error rfl

theorem lasts_quantityWei (raw : String) : Lasts (quantityWei raw) := by
  rcases quantityWei_cases raw with ⟨w, h⟩ | h
  · rw [h]
    exact lasts_ok w
  · rw [h]
    exact lasts_error rfl

theorem lasts_toPending (tx : NodeTx) : Lasts tx.toPending :=
  (lasts_quantityWei _).bind fun _ => (lasts_quantityWord _).bind fun _ => lasts_ok _

/-- A question whose answer is read in two steps: the result out of the reply, and what it stands for. -/
structure Question (α : Type) where
  Result : Type
  method : String
  params : Value
  reader : Reader Result
  absent : Option Result
  finish : Result → Except GatewayError α
  lasts : ∀ result, Lasts (finish result)

namespace Question

def query (q : Question α) : Query α :=
  ⟨q.method, q.params, fun body => decodeReply q.reader q.absent body >>= q.finish⟩

def request (q : Question α) (url : String) (id : UInt64) (attempt : Nat) : Request :=
  ⟨url, id, q.method, q.params, attempt⟩

def plain (method : String) (params : Value) (r : Reader α) (absent : Option α) : Question α :=
  ⟨α, method, params, r, absent, .ok, lasts_ok⟩

theorem query_plain (method : String) (params : Value) (r : Reader α) (absent : Option α) :
    (plain method params r absent).query = ⟨method, params, decodeReply r absent⟩ := by
  simp only [query, plain]
  congr
  funext body
  exact bind_pure _

end Question

namespace Query

def IsQuestion (q : Query α) : Prop :=
  ∃ question : Question α, question.query = q

theorem isQuestion_ofText (method : String) (params : List Value)
    {parse : String → Except GatewayError α} (h : ∀ s, Lasts (parse s)) :
    (ofText method params parse).IsQuestion :=
  ⟨⟨String, method, .arr params, .text, none, parse, h⟩, rfl⟩

theorem isQuestion_ofOption (method : String) (params : List Value) (r : Reader β)
    {parse : Option β → Except GatewayError α} (hnone : Lasts (parse none))
    (hsome : ∀ b, Lasts (parse (some b))) : (ofOption method params r parse).IsQuestion := by
  refine ⟨⟨Option β, method, .arr params, .nullable r, some none, parse, ?_⟩, rfl⟩
  rintro (_ | b)
  · exact hnone
  · exact hsome b

theorem isQuestion_baseFee : baseFee.IsQuestion := by
  refine isQuestion_ofOption _ _ _ (lasts_error rfl) fun head => ?_
  refine (lasts_quantityWord head.number).bind fun number => ?_
  dsimp only
  split
  · exact ((lasts_quantityWei _).map some).bind fun fee => lasts_ok _
  · exact lasts_ok _

theorem isQuestion_transaction (hash : TxHash) : (transaction hash).IsQuestion :=
  isQuestion_ofOption _ _ _ (lasts_ok none) fun tx => (lasts_toPending tx).map some

/-- All that is asked of a node is asked in this way. -/
theorem isQuestion (address : Address) (hash : TxHash) (method : String) (params : Value) :
    chainId.IsQuestion ∧ blockNumber.IsQuestion ∧ gasPrice.IsQuestion ∧
      (balance address).IsQuestion ∧ (nonce address).IsQuestion ∧ (code address).IsQuestion ∧
      baseFee.IsQuestion ∧ (transaction hash).IsQuestion ∧ (raw method params).IsQuestion :=
  ⟨isQuestion_ofText _ _ lasts_quantityWord, isQuestion_ofText _ _ lasts_quantityWord,
    isQuestion_ofText _ _ lasts_quantityWei, isQuestion_ofText _ _ lasts_quantityWei,
    isQuestion_ofText _ _ lasts_quantityWord, ⟨_, Question.query_plain ..⟩,
    isQuestion_baseFee, isQuestion_transaction hash, ⟨_, Question.query_plain ..⟩⟩

end Query

def Speaks (words : String) (s : String) : Prop :=
  ∃ part, part <:+: s.toList ∧ part.map Text.asciiLower = words.toList

theorem NodeError.isRateLimit_iff (e : NodeError) :
    e.isRateLimit = true ↔ e.code.toInt = -32005 ∨ Speaks "rate limit" e.message := by
  have hplain : ("rate limit".toList.all fun c => decide (Text.IsPlain c)) = true := by decide
  have hword : Text.IsWord "rate limit".toList :=
    ⟨fun c hc => of_decide_eq_true (List.all_eq_true.mp hplain c hc), by decide⟩
  rw [isRateLimit, Bool.or_eq_true, decide_eq_true_eq, Text.contains_lowercase_iff hword]
  rfl

/-- What goes wrong with an attempt may pass: nobody is there or answers in time, or the node asks for
fewer calls, by its status or in the error of a reply. -/
inductive Exchange.Passes (r : Reader α) : Exchange → Prop
  | refused : Passes r .refused
  | stalled : Passes r .stalled
  | tooMany (body : Option String) : Passes r (.answered 429 body)
  | rateLimited {status : Nat} {text : String} {result : Option α} {e : NodeError}
      (low : 200 ≤ status) (high : status ≤ 299)
      (reads : (Envelope.fields r).read (Doc.only text) = .ok ⟨result, some e⟩)
      (limit : e.code.toInt = -32005 ∨ Speaks "rate limit" e.message) :
      Passes r (.answered status (some text))

theorem NodeError.isTransient_toError (e : NodeError) :
    isTransient e.toError.code = e.isRateLimit := by
  unfold toError
  split
  · next h => exact h.symm
  · next h => exact (Bool.eq_false_iff.mpr h).symm

theorem decodeReply_of_error {r : Reader α} {body : String} {result : Option α} {e : NodeError}
    (h : (Envelope.fields r).read (Doc.only body) = .ok ⟨result, some e⟩) (absent : Option α) :
    decodeReply r absent body = .error e.toError := by
  unfold decodeReply
  simp only [h]

theorem lasts_decodeReply {r : Reader α} {body : String}
    (h : ∀ result e, (Envelope.fields r).read (Doc.only body) ≠ .ok ⟨result, some e⟩)
    (absent : Option α) : Lasts (decodeReply r absent body) := by
  unfold decodeReply
  split
  · exact lasts_error rfl
  · next result e hread => exact absurd hread (h result e)
  · exact lasts_ok _
  · split
    · exact lasts_ok _
    · exact lasts_error rfl

theorem Exchange.passes_answered_iff (r : Reader α) (status : Nat) (body : Option String) :
    (answered status body).Passes r ↔ status = 429 ∨ (200 ≤ status ∧ status ≤ 299 ∧
      ∃ text result e, body = some text ∧
        (Envelope.fields r).read (Doc.only text) = .ok ⟨result, some e⟩ ∧ e.isRateLimit = true) := by
  constructor
  · intro h
    cases h with
    | tooMany body => exact .inl rfl
    | rateLimited low high reads limit =>
      exact .inr ⟨low, high, _, _, _, rfl, reads, (NodeError.isRateLimit_iff _).mpr limit⟩
  · rintro (rfl | ⟨low, high, text, result, e, rfl, reads, limit⟩)
    · exact .tooMany body
    · exact .rateLimited low high reads (e.isRateLimit_iff.mp limit)

theorem Lasts.not_transient {outcome : Except GatewayError α} (h : Lasts outcome) :
    ¬∃ e, outcome = .error e ∧ isTransient e.code = true := by
  rintro ⟨e, he, htransient⟩
  cases htransient.symm.trans (h e he)

namespace Question

variable (q : Question α)

theorem transient_decode_iff (body : String) :
    (∃ e, q.query.decode body = .error e ∧ isTransient e.code = true) ↔
      ∃ result e, (Envelope.fields q.reader).read (Doc.only body) = .ok ⟨result, some e⟩ ∧
        e.isRateLimit = true := by
  by_cases hread : ∃ result e,
      (Envelope.fields q.reader).read (Doc.only body) = .ok ⟨result, some e⟩
  · obtain ⟨result, e, hread⟩ := hread
    have hdecode : q.query.decode body = .error e.toError := by
      simp only [query, decodeReply_of_error hread]
      rfl
    constructor
    · rintro ⟨_, he, htransient⟩
      cases hdecode.symm.trans he
      exact ⟨result, e, hread, e.isTransient_toError ▸ htransient⟩
    · rintro ⟨_, e', hread', hlimit⟩
      cases hread.symm.trans hread'
      exact ⟨_, hdecode, e.isTransient_toError.trans hlimit⟩
  · have hlasts : Lasts (q.query.decode body) :=
      (lasts_decodeReply (fun result e he => hread ⟨result, e, he⟩) q.absent).bind q.lasts
    refine iff_of_false hlasts.not_transient ?_
    rintro ⟨result, e, he, -⟩
    exact hread ⟨result, e, he⟩

theorem passes_iff (x : Exchange) :
    x.Passes q.reader ↔ ∃ e, x.outcome q.query.decode = .error e ∧ isTransient e.code = true := by
  cases x with
  | refused => exact iff_of_true .refused ⟨_, rfl, rfl⟩
  | stalled => exact iff_of_true .stalled ⟨_, rfl, rfl⟩
  | broken report =>
    have hlasts : Lasts ((Exchange.broken report).outcome q.query.decode) := lasts_error rfl
    exact iff_of_false nofun hlasts.not_transient
  | answered status body =>
    rw [Exchange.passes_answered_iff]
    unfold Exchange.outcome
    dsimp only
    by_cases hmany : status = 429
    · rw [if_pos hmany]
      exact iff_of_true (.inl hmany) ⟨_, rfl, rfl⟩
    · rw [if_neg hmany, or_iff_right hmany]
      by_cases hfine : 200 ≤ status ∧ status ≤ 299
      · rw [if_pos hfine]
        cases body with
        | none =>
          refine iff_of_false ?_ (lasts_error rfl).not_transient
          rintro ⟨-, -, text, result, e, ⟨⟩, -⟩
        | some text =>
          dsimp only
          rw [transient_decode_iff]
          constructor
          · rintro ⟨-, -, _, result, e, ⟨⟩, hread⟩
            exact ⟨result, e, hread⟩
          · rintro ⟨result, e, hread⟩
            exact ⟨hfine.1, hfine.2, text, result, e, rfl, hread⟩
      · rw [if_neg hfine]
        refine iff_of_false ?_ (lasts_error rfl).not_transient
        rintro ⟨low, high, -⟩
        exact hfine ⟨low, high⟩

variable (node : Node) (url : String) (id : UInt64)

theorem tryCall_of_ends (budget attempt : Nat)
    (h : (node (q.request url id attempt)).Passes q.reader → budget = 0) :
    tryCall node q.query.decode (q.request url id 1) (budget + 1) attempt =
      ⟨[q.request url id attempt],
        (node (q.request url id attempt)).outcome q.query.decode⟩ := by
  have hrequest : { q.request url id 1 with attempt := attempt } = q.request url id attempt := rfl
  rw [passes_iff] at h
  simp only [tryCall, hrequest]
  split
  · next a ha => rw [ha]
  · next e he =>
    have hlast : ¬(isTransient e.code = true ∧ budget ≠ 0) := fun hmore =>
      hmore.2 (h ⟨e, he, hmore.1⟩)
    rw [if_neg hlast, he]

theorem tryCall_of_passes (budget attempt : Nat)
    (h : (node (q.request url id attempt)).Passes q.reader) :
    tryCall node q.query.decode (q.request url id 1) (budget + 2) attempt =
      let rest := tryCall node q.query.decode (q.request url id 1) (budget + 1) (attempt + 1)
      ⟨q.request url id attempt :: rest.attempts, rest.outcome⟩ := by
  obtain ⟨e, he, htransient⟩ := (q.passes_iff _).mp h
  have hrequest : { q.request url id 1 with attempt := attempt } = q.request url id attempt := rfl
  rw [tryCall]
  simp only [hrequest, he]
  rw [if_pos ⟨htransient, by omega⟩]

theorem exists_tryCall (budget attempt : Nat) :
    ∃ n ≤ budget,
      let call := tryCall node q.query.decode (q.request url id 1) (budget + 1) attempt
      call.attempts = (List.range' attempt (n + 1)).map (q.request url id) ∧
        call.outcome = (node (q.request url id (attempt + n))).outcome q.query.decode ∧
        (∀ k < n, (node (q.request url id (attempt + k))).Passes q.reader) ∧
        ((node (q.request url id (attempt + n))).Passes q.reader → n = budget) := by
  -- on the budget, which goes down while the attempts are numbered upwards
  induction budget generalizing attempt with
  | zero =>
    refine ⟨0, Nat.le_refl _, ?_⟩
    rw [tryCall_of_ends q node url id 0 attempt fun _ => rfl]
    exact ⟨rfl, rfl, nofun, fun _ => rfl⟩
  | succ budget ih =>
    by_cases h : (node (q.request url id attempt)).Passes q.reader
    · obtain ⟨n, hn, hattempts, houtcome, hearlier, hlast⟩ := ih (attempt + 1)
      rw [tryCall_of_passes q node url id budget attempt h]
      dsimp only at hattempts houtcome ⊢
      have hplace : attempt + (n + 1) = attempt + 1 + n := by omega
      refine ⟨n + 1, by omega, ?_, ?_, ?_, ?_⟩
      · rw [hattempts]
        rfl
      · rw [houtcome, hplace]
      · intro k hk
        cases k with
        | zero => exact h
        | succ k =>
          have hk' : attempt + (k + 1) = attempt + 1 + k := by omega
          rw [hk']
          exact hearlier k (by omega)
      · intro hpasses
        rw [hplace] at hpasses
        rw [hlast hpasses]
    · rw [tryCall_of_ends q node url id (budget + 1) attempt fun hpasses => absurd hpasses h]
      exact ⟨0, Nat.zero_le _, rfl, rfl, nofun, fun hpasses => absurd hpasses h⟩

/-- A call of so many attempts, each with the number of the call: all but the last went wrong in a way
that may pass, and so may the last one have only if it was the third. -/
structure Tried (count : Nat) (call : Call α) : Prop where
  once : 1 ≤ count
  atMost : count ≤ 3
  attempts : call.attempts = (List.range' 1 count).map (q.request url id)
  outcome : call.outcome = (node (q.request url id count)).outcome q.query.decode
  earlier : ∀ k, 1 ≤ k → k < count → (node (q.request url id k)).Passes q.reader
  last : (node (q.request url id count)).Passes q.reader → count = 3 ∧ ∃ e, call.outcome = .error e

/-- A call as it ends: tried, or refused at once where no request can be made to the address. -/
def Ended (call : Call α) : Prop :=
  match checkEndpoint url with
  | .ok () => ∃ count, q.Tried node url id count call
  | .error fault => call = ⟨[], .error { code := .rpcError, message := fault.message }⟩

theorem tried_tryCall :
    ∃ count, q.Tried node url id count
      (tryCall node q.query.decode (q.request url id 1) maxAttempts 1) := by
  obtain ⟨n, hn, hattempts, houtcome, hearlier, hlast⟩ := q.exists_tryCall node url id 2 1
  rw [Nat.add_comm 1 n] at houtcome hlast
  refine ⟨n + 1, by omega, by omega, hattempts, houtcome, ?_, fun hpasses => ⟨?_, ?_⟩⟩
  · intro k hpos hk
    have hplace : 1 + (k - 1) = k := by omega
    exact hplace ▸ hearlier (k - 1) (by omega)
  · rw [hlast hpasses]
  · obtain ⟨e, he, -⟩ := (q.passes_iff _).mp hpasses
    exact ⟨e, houtcome.trans he⟩

theorem ended_ask (c : Client) :
    q.Ended node c.network.httpUrl c.nextId (c.ask node q.query).1 := by
  unfold Ended Client.ask Client.call
  cases checkEndpoint c.network.httpUrl with
  | error fault => rfl
  | ok _ => exact q.tried_tryCall ..

end Question

end MempoolGate.Rpc
