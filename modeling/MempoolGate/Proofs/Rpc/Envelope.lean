import MempoolGate.Proofs.Json.Shape
import MempoolGate.Proofs.Rpc.Numbers
import MempoolGate.Proofs.Rpc.Retry

namespace MempoolGate.Rpc

open Json

variable {α β : Type}

def IsError (d : Doc) (e : NodeError) : Prop :=
  ∃ under, d.LaysOut ["code", "message"] under ∧
    Single IsInteger (under "code") e.code.toInt ∧ Single IsText (under "message") e.message

/-- The body is an envelope with this result, which `R` relates to its tree, and this error. -/
def IsEnvelope (R : Doc → β → Prop) (body : String) (result : Option β)
    (error : Option NodeError) : Prop :=
  ∃ under, (Doc.only body).LaysOut ["result", "error"] under ∧
    Given R (under "result") result ∧ Given IsError (under "error") error

def IsBlockHead (d : Doc) (head : BlockHead) : Prop :=
  ∃ under, d.LaysOut ["number", "baseFeePerGas"] under ∧
    Single IsText (under "number") head.number ∧ Given IsText (under "baseFeePerGas") head.baseFee

structure IsTxUnder (under : String → List Doc) (tx : NodeTx) : Prop where
  hash : Single IsBytes (under "hash") tx.hash.bytes
  sender : Single IsBytes (under "from") tx.sender.bytes
  recipient : Given (fun d a => IsBytes d a.bytes) (under "to") tx.recipient
  value : Single IsText (under "value") tx.value
  input : GivenOr [] IsBytes (under "input") tx.input
  gas : Single IsText (under "gas") tx.gas

def IsTx (d : Doc) (tx : NodeTx) : Prop :=
  ∃ under, d.LaysOut ["hash", "from", "to", "value", "input", "gas"] under ∧ IsTxUnder under tx

theorem NodeError.reads_read : Reader.Reads NodeError.fields.read IsError := by
  have hfields : NodeError.fields.Exact _ :=
    ((Fields.exact_required "code" Reader.reads_signed).map NodeError.mk).seq
      (Fields.exact_required "message" Reader.reads_text)
  refine (hfields.congr fun under e => ?_).reads (by decide) (by rintro _ ⟨⟩; rfl)
  constructor
  · rintro ⟨_, message, ⟨code, hcode, rfl⟩, hmessage, rfl⟩
    exact ⟨hcode, hmessage⟩
  · rintro ⟨hcode, hmessage⟩
    exact ⟨_, _, ⟨_, hcode, rfl⟩, hmessage, rfl⟩

theorem BlockHead.reads_read : Reader.Reads BlockHead.fields.read IsBlockHead := by
  have hfields : BlockHead.fields.Exact _ :=
    ((Fields.exact_required "number" Reader.reads_text).map BlockHead.mk).seq
      (Fields.exact_nullable "baseFeePerGas" Reader.reads_text)
  refine (hfields.congr fun under head => ?_).reads (by decide) (by rintro _ ⟨⟩; rfl)
  constructor
  · rintro ⟨_, fee, ⟨number, hnumber, rfl⟩, hfee, rfl⟩
    exact ⟨hnumber, hfee⟩
  · rintro ⟨hnumber, hfee⟩
    exact ⟨_, _, ⟨_, hnumber, rfl⟩, hfee, rfl⟩

theorem NodeTx.reads_read : Reader.Reads NodeTx.fields.read IsTx := by
  have hfields : NodeTx.fields.Exact _ :=
    (Fields.exact_required "hash" (Reader.reads_fixedBytes 32)).map NodeTx.mk
      |>.seq (Fields.exact_required "from" (Reader.reads_fixedBytes 20))
      |>.seq (Fields.exact_nullable "to" (Reader.reads_fixedBytes 20))
      |>.seq (Fields.exact_required "value" Reader.reads_text)
      |>.seq (Fields.exact_defaulted "input" Reader.reads_bytes [])
      |>.seq (Fields.exact_required "gas" Reader.reads_text)
  refine (hfields.congr fun under tx => ?_).reads (by decide) (by rintro _ ⟨⟩; rfl)
  constructor
  · rintro ⟨_, gas, ⟨_, input, ⟨_, value, ⟨_, recipient, ⟨_, sender, ⟨hash, hhash, rfl⟩, hsender, rfl⟩,
      hrecipient, rfl⟩, hvalue, rfl⟩, hinput, rfl⟩, hgas, rfl⟩
    exact ⟨hhash, hsender, hrecipient, hvalue, hinput, hgas⟩
  · rintro ⟨hhash, hsender, hrecipient, hvalue, hinput, hgas⟩
    exact ⟨_, _, ⟨_, _, ⟨_, _, ⟨_, _, ⟨_, _, ⟨_, hhash, rfl⟩, hsender, rfl⟩, hrecipient, rfl⟩, hvalue,
      rfl⟩, hinput, rfl⟩, hgas, rfl⟩

theorem NodeError.code_toError (e : NodeError) :
    e.toError.code = if e.isRateLimit then .rpcRateLimited else .rpcError := by
  unfold toError
  split <;> rfl

section Bodies

variable {r : Reader β} {R : Doc → β → Prop} {body : String} {error : Option NodeError}

theorem Envelope.fields_nonNull (r : Reader α) :
    Envelope.fields r.nonNull = Envelope.fields r := by
  simp only [Envelope.fields, Fields.nullable, Reader.nullable_nonNull]

theorem Envelope.nodup_names (r : Reader α) : (Envelope.fields r).names.Nodup := by
  change ["result", "error"].Nodup
  decide

theorem Envelope.read_eq_ok_iff (h : r.Reads R) {result : Option β} :
    (Envelope.fields r).read (Doc.only body) = .ok ⟨result, error⟩ ↔
      IsEnvelope R body result error := by
  have hfields : (Envelope.fields r).Exact _ :=
    ((Fields.exact_nullable "result" h).map Envelope.mk).seq
      (Fields.exact_nullable "error" NodeError.reads_read)
  rw [(hfields.reads (Envelope.nodup_names _) (by rintro _ ⟨⟩; rfl)).iff]
  refine exists_congr fun under => and_congr_right fun _ => ?_
  constructor
  · rintro ⟨_, _, ⟨_, hresult, rfl⟩, herror, hmk⟩
    cases hmk
    exact ⟨hresult, herror⟩
  · rintro ⟨hresult, herror⟩
    exact ⟨_, _, ⟨_, hresult, rfl⟩, herror, rfl⟩

theorem Envelope.read_nullable_eq_ok_iff (h : r.Reads R) {result : Option (Option β)} :
    (Envelope.fields r.nullable).read (Doc.only body) = .ok ⟨result, error⟩ ↔
      ∃ result', IsEnvelope R body result' error ∧ result = result'.map some := by
  have hfields : (Envelope.fields r.nullable).Exact _ :=
    ((Fields.exact_nullable_nullable "result" h).map Envelope.mk).seq
      (Fields.exact_nullable "error" NodeError.reads_read)
  rw [(hfields.reads (Envelope.nodup_names _) (by rintro _ ⟨⟩; rfl)).iff]
  constructor
  · rintro ⟨under, hlays, _, _, ⟨_, ⟨result', hresult, rfl⟩, rfl⟩, herror, hmk⟩
    cases hmk
    exact ⟨result', ⟨under, hlays, hresult, herror⟩, rfl⟩
  · rintro ⟨result', ⟨under, hlays, hresult, herror⟩, rfl⟩
    exact ⟨under, hlays, _, _, ⟨_, ⟨result', hresult, rfl⟩, rfl⟩, herror, rfl⟩

def BlockHead.latest (head : BlockHead) : Except GatewayError (UInt64 × Option Wei) := do
  let number ← quantityWord head.number
  let fee ← match head.baseFee with
    | some raw => (quantityWei raw).map some
    | none => .ok none
  return (number, fee)

def garbledReply : GatewayError :=
  { code := .rpcInvalidResponse, message := "Failed to parse response", hasCause := true }

theorem decodeReply_of_garbled
    (h : ∀ result error, (Envelope.fields r).read (Doc.only body) ≠ .ok ⟨result, error⟩)
    (absent : Option β) : decodeReply r absent body = .error garbledReply := by
  unfold decodeReply
  split
  · rfl
  · next result e hread => exact absurd hread (h result (some e))
  · next b hread => exact absurd hread (h (some b) none)
  · next hread => exact absurd hread (h none none)

theorem decodeReply_of_clean {result : Option β}
    (h : (Envelope.fields r).read (Doc.only body) = .ok ⟨result, none⟩) (absent : Option β) :
    decodeReply r absent body =
      (result.or absent).elim (.error (.invalidResponse "No result in response")) .ok := by
  unfold decodeReply
  cases result with
  | some b => simp only [h, Option.some_or, Option.elim_some]
  | none => cases absent <;> simp only [h, Option.none_or] <;> rfl

end Bodies

def Exchange.Brings (x : Exchange) (body : String) : Prop :=
  ∃ status, x = .answered status (some body) ∧ 200 ≤ status ∧ status ≤ 299

theorem Exchange.Brings.outcome {x : Exchange} {body : String} (h : x.Brings body)
    (decode : String → Except GatewayError α) : x.outcome decode = decode body := by
  obtain ⟨status, rfl, hlow, hhigh⟩ := h
  exact outcome_answered hlow hhigh body

/-- What becomes of the replies of success to a question: nothing is made of a garbled one, an error goes
before a result, what is found is read by `finish`, and the want of a result comes to `absent`. -/
structure Query.Judges (q : Query α) (R : Doc → β → Prop) (finish : β → Except GatewayError α)
    (absent : Except GatewayError α) : Prop where
  garbled : ∀ (x : Exchange) body, x.Brings body →
    (∀ result error, ¬IsEnvelope R body result error) → x.outcome q.decode = .error garbledReply
  failed : ∀ (x : Exchange) body result e, x.Brings body → IsEnvelope R body result (some e) →
    x.outcome q.decode = .error e.toError
  found : ∀ (x : Exchange) body b, x.Brings body → IsEnvelope R body (some b) none →
    x.outcome q.decode = finish b
  missing : ∀ (x : Exchange) body, x.Brings body → IsEnvelope R body none none →
    x.outcome q.decode = absent

namespace Query

variable {q : Query α} {r : Reader β} {R : Doc → β → Prop}

/-- How the envelopes of a question are read says how its replies are judged; `f` is what the reader
makes of the result of an envelope. -/
theorem judges_of_read {γ : Type} {r : Reader γ} {f : Option β → Option γ} {absent : Option γ}
    {parse : γ → Except GatewayError α} {finish : β → Except GatewayError α}
    {missing : Except GatewayError α} (hq : ∀ body, q.decode body = decodeReply r absent body >>= parse)
    (hread : ∀ body result error, (Envelope.fields r).read (Doc.only body) = .ok ⟨result, error⟩ ↔
      ∃ result', IsEnvelope R body result' error ∧ result = f result')
    (hend : ∀ result, ((f result).or absent).elim
      (.error (.invalidResponse "No result in response")) .ok >>= parse = result.elim missing finish) :
    q.Judges R finish missing := by
  have hclean : ∀ (x : Exchange) body result, x.Brings body → IsEnvelope R body result none →
      x.outcome q.decode = result.elim missing finish := by
    intro x body result hx henvelope
    rw [hx.outcome, hq, decodeReply_of_clean ((hread _ _ _).mpr ⟨result, henvelope, rfl⟩), hend]
  constructor
  · intro x body hx hgarbled
    rw [hx.outcome, hq, decodeReply_of_garbled fun result error h => ?_]
    · rfl
    · obtain ⟨result', henvelope, -⟩ := (hread _ _ _).mp h
      exact hgarbled result' error henvelope
  · intro x body result e hx henvelope
    rw [hx.outcome, hq, decodeReply_of_error ((hread _ _ _).mpr ⟨result, henvelope, rfl⟩)]
    rfl
  · exact fun x body b hx henvelope => hclean x body (some b) hx henvelope
  · exact fun x body hx henvelope => hclean x body none hx henvelope

theorem judges_of_plain (h : r.Reads R) {finish : β → Except GatewayError α} (absent : Option β)
    (hq : ∀ body, q.decode body = decodeReply r absent body >>= finish) :
    q.Judges R finish (absent.elim (.error (.invalidResponse "No result in response")) finish) := by
  refine judges_of_read (f := id) hq (fun body result error => ?_) fun result => ?_
  · simp only [Envelope.read_eq_ok_iff h, id, exists_eq_right']
  · cases result <;> cases absent <;> rfl

theorem judges_ofOption (h : r.Reads R) {method : String} {params : List Value}
    {parse : Option β → Except GatewayError α} :
    (ofOption method params r parse).Judges R (fun b => parse (some b)) (parse none) := by
  refine judges_of_read (r := r.nullable) (fun _ => rfl)
    (fun _ _ _ => Envelope.read_nullable_eq_ok_iff h) fun result => ?_
  cases result <;> rfl

theorem judges_ofText {method : String} {params : List Value}
    {parse : String → Except GatewayError α} :
    (ofText method params parse).Judges IsText parse
      (.error (.invalidResponse "No result in response")) :=
  judges_of_plain Reader.reads_text none fun _ => rfl

theorem judges_code (address : Address) : (code address).Judges IsBytes .ok
    (.error (.invalidResponse "No result in response")) :=
  judges_of_plain Reader.reads_bytes none fun _ => (bind_pure _).symm

theorem judges_raw (method : String) (params : Value) :
    (raw method params).Judges (IsValue (maxDepth - 1)) .ok (.ok .null) := by
  refine judges_of_plain (Reader.reads_value (maxDepth - 1)) (some .null) fun body => ?_
  have hdecode : decodeReply (Reader.nonNull (Doc.value (maxDepth - 1))) (some .null) body =
      decodeReply .any (some .null) body := by
    unfold decodeReply
    rw [Envelope.fields_nonNull]
    rfl
  rw [hdecode]
  exact (bind_pure _).symm

variable {finish : β → Except GatewayError α} {absent : Except GatewayError α} {x : Exchange}
  {body : String}

theorem Judges.outcome_eq_ok_iff (h : q.Judges R finish absent) (hx : x.Brings body) {a : α} :
    x.outcome q.decode = .ok a ↔
      (∃ b, IsEnvelope R body (some b) none ∧ finish b = .ok a) ∨
        IsEnvelope R body none none ∧ absent = .ok a := by
  constructor
  · intro hok
    by_cases hbody : ∃ result error, IsEnvelope R body result error
    · obtain ⟨result, error, henvelope⟩ := hbody
      cases error with
      | some e => cases (h.failed x body result e hx henvelope).symm.trans hok
      | none =>
        cases result with
        | some b => exact .inl ⟨b, henvelope, (h.found x body b hx henvelope).symm.trans hok⟩
        | none => exact .inr ⟨henvelope, (h.missing x body hx henvelope).symm.trans hok⟩
    · have hgarbled := h.garbled x body hx fun result error henvelope =>
        hbody ⟨result, error, henvelope⟩
      cases hgarbled.symm.trans hok
  · rintro (⟨b, henvelope, hfinish⟩ | ⟨henvelope, habsent⟩)
    · rw [h.found x body b hx henvelope, hfinish]
    · rw [h.missing x body hx henvelope, habsent]

theorem judges_baseFee : baseFee.Judges IsBlockHead BlockHead.latest
    (.error (.invalidResponse "Latest block missing")) :=
  judges_ofOption BlockHead.reads_read

theorem judges_transaction (hash : TxHash) :
    (transaction hash).Judges IsTx (fun tx => tx.toPending.map some) (.ok none) :=
  judges_ofOption NodeTx.reads_read

end Query

/-- The texts for numbers in what a node tells of a transaction stand for those of the transaction, and
everything else is the same. -/
structure NodeTx.Means (tx : NodeTx) (p : PendingTx) : Prop where
  hash : p.hash = tx.hash
  sender : p.sender = tx.sender
  recipient : p.recipient = tx.recipient
  value : SpellsQuantity p.value.toNat tx.value ∨ SpellsGrouped p.value.toNat tx.value
  input : p.input = tx.input
  gasLimit : SpellsQuantity p.gasLimit.toNat tx.gas ∨ SpellsSigned p.gasLimit.toNat tx.gas

theorem NodeTx.toPending_eq_ok_iff {tx : NodeTx} {p : PendingTx} :
    tx.toPending = .ok p ↔ tx.Means p := by
  simp only [toPending, bind_eq_ok_iff]
  constructor
  · rintro ⟨value, hvalue, gasLimit, hgas, hp⟩
    cases hp
    exact ⟨rfl, rfl, rfl, quantityWei_eq_ok_iff.mp hvalue, rfl, quantityWord_eq_ok_iff.mp hgas⟩
  · intro h
    refine ⟨p.value, quantityWei_eq_ok_iff.mpr h.value, p.gasLimit,
      quantityWord_eq_ok_iff.mpr h.gasLimit, ?_⟩
    rw [← h.hash, ← h.sender, ← h.recipient, ← h.input]
    rfl

/-- The last attempt of the call ended with this reply of success. -/
def Call.DecidedBy (node : Node) (call : Call α) (body : String) : Prop :=
  ∃ last, call.attempts.getLast? = some last ∧ (node last).Brings body

namespace Client

variable {c : Client} {node : Node} {q : Query α}

theorem outcome_of_decidedBy {body : String} (h : (c.ask node q).1.DecidedBy node body) :
    (c.ask node q).1.outcome = q.decode body := by
  obtain ⟨last, hlast, hbrings⟩ := h
  rw [outcome_ask hlast, hbrings.outcome]

theorem outcome_eq_ok_iff {a : α} : (c.ask node q).1.outcome = .ok a ↔
    ∃ body, (c.ask node q).1.DecidedBy node body ∧ q.decode body = .ok a := by
  constructor
  · intro h
    obtain ⟨last, status, body, hlast, hnode, hlow, hhigh, hdecode⟩ := exists_answer h
    exact ⟨body, ⟨last, hlast, status, hnode, hlow, hhigh⟩, hdecode⟩
  · rintro ⟨body, hdecided, hdecode⟩
    rw [outcome_of_decidedBy hdecided, hdecode]

variable {R : Doc → β → Prop} {finish : β → Except GatewayError α} {absent : Except GatewayError α}

theorem outcome_eq_ok_iff_of_judges (h : q.Judges R finish absent) {a : α} :
    (c.ask node q).1.outcome = .ok a ↔ ∃ body, (c.ask node q).1.DecidedBy node body ∧
      ((∃ b, IsEnvelope R body (some b) none ∧ finish b = .ok a) ∨
        IsEnvelope R body none none ∧ absent = .ok a) := by
  rw [outcome_eq_ok_iff]
  refine exists_congr fun body => and_congr_right fun hdecided => ?_
  obtain ⟨last, -, hbrings⟩ := hdecided
  rw [← hbrings.outcome q.decode]
  exact h.outcome_eq_ok_iff hbrings

variable {hash : TxHash}

theorem outcome_transaction_eq_none_iff :
    (c.ask node (.transaction hash)).1.outcome = .ok none ↔
      ∃ body, (c.ask node (.transaction hash)).1.DecidedBy node body ∧
        IsEnvelope IsTx body none none := by
  rw [outcome_eq_ok_iff_of_judges (Query.judges_transaction hash)]
  refine exists_congr fun body => and_congr_right fun _ => ?_
  constructor
  · rintro (⟨tx, -, hfinish⟩ | ⟨henvelope, -⟩)
    · obtain ⟨p, -, ⟨⟩⟩ := map_eq_ok_iff.mp hfinish
    · exact henvelope
  · exact fun henvelope => .inr ⟨henvelope, rfl⟩

theorem outcome_transaction_eq_some_iff {p : PendingTx} :
    (c.ask node (.transaction hash)).1.outcome = .ok (some p) ↔
      ∃ body tx, (c.ask node (.transaction hash)).1.DecidedBy node body ∧
        IsEnvelope IsTx body (some tx) none ∧ tx.Means p := by
  rw [outcome_eq_ok_iff_of_judges (Query.judges_transaction hash)]
  constructor
  · rintro ⟨body, hdecided, ⟨tx, henvelope, hfinish⟩ | ⟨-, ⟨⟩⟩⟩
    obtain ⟨p', hp', ⟨⟩⟩ := map_eq_ok_iff.mp hfinish
    exact ⟨body, tx, hdecided, henvelope, NodeTx.toPending_eq_ok_iff.mp hp'⟩
  · rintro ⟨body, tx, hdecided, henvelope, hmeans⟩
    refine ⟨body, hdecided, .inl ⟨tx, henvelope, ?_⟩⟩
    rw [NodeTx.toPending_eq_ok_iff.mpr hmeans]
    rfl

end Client

end MempoolGate.Rpc
