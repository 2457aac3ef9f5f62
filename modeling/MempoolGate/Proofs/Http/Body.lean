import MempoolGate.Http.Handlers
import MempoolGate.Proofs.Chain.Address
import MempoolGate.Proofs.Except
import MempoolGate.Proofs.Json.Members
import Mathlib.Data.String.Basic

namespace MempoolGate.Http

open Json Text

def SpellsAddress (a : Address) (s : String) : Prop :=
  ∃ cs, Padded s cs ∧ SpellsBytes a.bytes cs

def SpellsWei (w : Wei) : Option String → Prop
  | none => w = .zero
  | some s => ∃ cs, Padded s cs ∧ Literal.Spells w.toNat cs

def SpellsPayload (bytes : List UInt8) : Option String → Prop
  | none => bytes = []
  | some s => ∃ cs, Padded s cs ∧ SpellsBytes bytes cs

variable {field s : String} {raw : Option String} {a : Address} {w : Wei} {bytes : List UInt8}

theorem spellsAddress_iff : SpellsAddress a s ↔ FixedBytes.parse? 20 (trim s) = some a := by
  rw [FixedBytes.parse?_eq_some_iff, SpellsAddress, exists_padded_iff fun _ hcs => hcs.isBlank]

theorem readAddress_eq_ok_iff : readAddress field s = .ok a ↔ SpellsAddress a s := by
  rw [spellsAddress_iff]
  unfold readAddress
  split
  · next b hb => rw [hb, Except.ok.injEq, Option.some.injEq]
  · next hb =>
    rw [hb]
    exact ⟨nofun, nofun⟩

theorem readWei_some_iff : readWei (some s) = .ok w ↔ Wei.parse? (trim s) = some w := by
  have hnone : Wei.parse? "" = some .zero := by decide
  by_cases hblank : trim s = ""
  · rw [readWei, Option.bind_some, trimmed?_of_blank hblank, hblank, hnone, Except.ok.injEq,
      Option.some.injEq]
  · rw [readWei, Option.bind_some, trimmed?_of_ne hblank]
    dsimp only
    cases Wei.parse? (trim s) with
    | none => exact ⟨nofun, nofun⟩
    | some read => rw [Except.ok.injEq, Option.some.injEq]

theorem readWei_eq_ok_iff : readWei raw = .ok w ↔ SpellsWei w raw := by
  cases raw with
  | none =>
    rw [SpellsWei]
    exact ⟨fun h => (Except.ok.inj h).symm, fun h => congrArg Except.ok h.symm⟩
  | some s =>
    rw [readWei_some_iff, Wei.parse?_eq_some_iff, SpellsWei,
      exists_padded_iff fun _ hcs => hcs.isBlank]

theorem readPayload_some_iff : readPayload (some s) = .ok bytes ↔ hexBytes? (trim s) = some bytes := by
  have hnone : hexBytes? "" = some [] := by decide
  by_cases hblank : trim s = ""
  · rw [readPayload, Option.bind_some, trimmed?_of_blank hblank, hblank, hnone, Except.ok.injEq,
      Option.some.injEq]
  · rw [readPayload, Option.bind_some, trimmed?_of_ne hblank]
    dsimp only
    cases hexBytes? (trim s) with
    | none => exact ⟨nofun, nofun⟩
    | some read => rw [Except.ok.injEq, Option.some.injEq]

theorem readPayload_eq_ok_iff : readPayload raw = .ok bytes ↔ SpellsPayload bytes raw := by
  cases raw with
  | none =>
    rw [SpellsPayload]
    exact ⟨fun h => (Except.ok.inj h).symm, fun h => congrArg Except.ok h.symm⟩
  | some s =>
    rw [readPayload_some_iff, hexBytes?_eq_some_iff, SpellsPayload,
      exists_padded_iff fun _ hcs => hcs.isBlank]

structure SimulateBody.Spells (b : SimulateBody) (sender recipient : Address) (value : Wei)
    (payload : List UInt8) : Prop where
  sender : SpellsAddress sender b.sender
  recipient : SpellsAddress recipient b.recipient
  value : SpellsWei value b.value
  payload : SpellsPayload payload b.payload

/-- What the engine is asked about a transaction, however its body spelled it. -/
def handedOver (network : Network) (sender recipient : Address) (value : Wei) (payload : List UInt8)
    (gasLimit : UInt64) : Simulation.Request :=
  { sender := sender.checksummed
    recipient := recipient.checksummed
    valueWei := value.decimal
    payload := hexText payload
    gasLimit := gasLimit
    network := network.id
    rpcUrl := some network.httpUrl }

theorem SimulateBody.toRequest_eq_ok_iff {b : SimulateBody} {registry : Registry}
    {request : Simulation.Request} :
    b.toRequest registry = .ok request ↔ ∃ sender recipient value payload,
      b.Spells sender recipient value payload ∧
        request = handedOver (registry.resolve (b.network.getD "")) sender recipient value payload
          b.gasLimit := by
  simp only [toRequest, bind_eq_ok_iff, readAddress_eq_ok_iff, readWei_eq_ok_iff,
    readPayload_eq_ok_iff]
  constructor
  · rintro ⟨sender, hsender, recipient, hrecipient, value, hvalue, payload, hpayload, h⟩
    exact ⟨sender, recipient, value, payload, ⟨hsender, hrecipient, hvalue, hpayload⟩,
      (Except.ok.inj h).symm⟩
  · rintro ⟨sender, recipient, value, payload, h, rfl⟩
    exact ⟨sender, h.sender, recipient, h.recipient, value, h.value, payload, h.payload, rfl⟩

def SpellsRecipient : Option Address → Option String → Prop
  | none, raw => ∀ s ∈ raw, ∀ c ∈ s.toList, isBlank c = true
  | some a, raw => ∃ s, raw = some s ∧ SpellsAddress a s

structure ClassifyBody.Spells (b : ClassifyBody) (tx : PendingTx) : Prop where
  sender : SpellsAddress tx.sender b.sender
  recipient : SpellsRecipient tx.recipient b.recipient
  value : SpellsWei tx.value b.value
  payload : SpellsPayload tx.input b.payload
  gasLimit : b.gasLimit = tx.gasLimit

theorem SpellsAddress.trim (h : SpellsAddress a s) : SpellsAddress a (Text.trim s) := by
  rw [spellsAddress_iff] at h
  refine ⟨_, ⟨[], [], ?_, nofun, nofun⟩, FixedBytes.parse?_eq_some_iff.mp h⟩
  rw [List.nil_append, List.append_nil]

theorem SpellsAddress.trimmed? (h : SpellsAddress a s) : Text.trimmed? s = some (Text.trim s) := by
  refine trimmed?_of_ne fun hblank => ?_
  have hnone : FixedBytes.parse? 20 "" = none := by decide
  rw [spellsAddress_iff, hblank, hnone] at h
  cases h

theorem recipient_of_spells {recipient : Option Address} (h : SpellsRecipient recipient raw) :
    recipient = none ∧ raw.bind trimmed? = none ∨
      ∃ a t, recipient = some a ∧ raw.bind trimmed? = some t ∧ readAddress "to" t = .ok a := by
  cases recipient with
  | none =>
    refine .inl ⟨rfl, ?_⟩
    cases raw with
    | none => rfl
    | some s =>
      rw [Option.bind_some, trimmed?_eq_none_iff]
      exact h s rfl
  | some a =>
    obtain ⟨s, rfl, hs⟩ := h
    rw [Option.bind_some]
    exact .inr ⟨a, _, rfl, hs.trimmed?, readAddress_eq_ok_iff.mpr hs.trim⟩

theorem ClassifyBody.Spells.toTx {b : ClassifyBody} {tx : PendingTx} (h : b.Spells tx) :
    b.toTx = .ok { tx with hash := .filled 32 0 } := by
  have hsender : readAddress "from" b.sender = .ok tx.sender := readAddress_eq_ok_iff.mpr h.sender
  have hvalue := readWei_eq_ok_iff.mpr h.value
  have hpayload := readPayload_eq_ok_iff.mpr h.payload
  rcases recipient_of_spells h.recipient with ⟨hnone, hraw⟩ | ⟨a, t, hsome, hraw, hread⟩
  · rw [ClassifyBody.toTx, hsender, hraw, hvalue, hpayload, h.gasLimit, hnone]
    rfl
  · simp only [ClassifyBody.toTx, hsender, hraw, hvalue, hpayload, h.gasLimit, hread, hsome]
    rfl

structure ClassifyBody.Written (b : ClassifyBody) (under : String → List Doc) : Prop where
  sender : under "from" = [.str (some b.sender)]
  recipient : TextUnder (under "to") b.recipient
  value : TextUnder (under "value") b.value
  payload : TextUnder (under "data") b.payload
  gasLimit : WordUnder 21000 (under "gas_limit") b.gasLimit
  network : TextUnder (under "network") b.network

theorem ClassifyBody.Written.takes {b : ClassifyBody} {under : String → List Doc}
    (h : b.Written under) : fields.Takes under b :=
  (Fields.takes_text h.sender).map ClassifyBody.mk
    |>.seq (Fields.takes_optional h.recipient)
    |>.seq (Fields.takes_optional h.value)
    |>.seq (Fields.takes_optional h.payload)
    |>.seq (Fields.takes_word h.gasLimit)
    |>.seq (Fields.takes_optional h.network)

structure SimulateBody.Written (b : SimulateBody) (under : String → List Doc) : Prop where
  sender : under "from" = [.str (some b.sender)]
  recipient : under "to" = [.str (some b.recipient)]
  value : TextUnder (under "value") b.value
  payload : TextUnder (under "data") b.payload
  gasLimit : WordUnder 500000 (under "gas_limit") b.gasLimit
  network : TextUnder (under "network") b.network

theorem SimulateBody.Written.takes {b : SimulateBody} {under : String → List Doc}
    (h : b.Written under) : fields.Takes under b :=
  (Fields.takes_text h.sender).map SimulateBody.mk
    |>.seq (Fields.takes_text h.recipient)
    |>.seq (Fields.takes_optional h.value)
    |>.seq (Fields.takes_optional h.payload)
    |>.seq (Fields.takes_word h.gasLimit)
    |>.seq (Fields.takes_optional h.network)

/-- A request whose body is a JSON object with these members. -/
structure Request.Carries (r : Request) (members : Members) : Prop where
  type : ((r.text? "content-type").map MediaType.isJson).getD false = true
  body : Doc.first r.body = .obj members
  whole : members.isWhole = true
  keyed : members.isKeyed = true

theorem Request.Carries.json {α : Type} {r : Request} {members : Members} {fields : Fields α} {a : α}
    (h : r.Carries members) (hsize : r.body.utf8ByteSize ≤ maxBodyBytes)
    (htakes : fields.Takes members.under a) : r.json fields = .ok a := by
  simp only [Request.json, if_pos h.type, if_pos hsize, h.body, Fields.read,
    htakes.readMembers h.whole h.keyed]

theorem Request.Carries.json_of_long {α : Type} {r : Request} {members : Members}
    (h : r.Carries members) (hsize : maxBodyBytes < r.body.utf8ByteSize) (fields : Fields α) :
    r.json fields = .error 413 := by
  rw [Request.json, if_pos h.type, if_neg (Nat.not_le.mpr hsize)]

def jsonPost (path : String) (members : List (String × Plain)) : Request :=
  ⟨"POST", path, "", [("content-type", "application/json")], String.ofList (writeObject members)⟩

def Request.padded (r : Request) (blanks : Nat) : Request :=
  { r with body := r.body ++ String.ofList (List.replicate blanks ' ') }

theorem utf8ByteSize_padded (r : Request) (blanks : Nat) :
    (r.padded blanks).body.utf8ByteSize = r.body.utf8ByteSize + blanks := by
  have hblanks : String.utf8Len (List.replicate blanks ' ') = blanks := by
    induction blanks with
    | zero => rfl
    | succ blanks ih =>
      rw [List.replicate_succ, String.utf8Len_cons, ih]
      rfl
  rw [Request.padded, String.utf8ByteSize_append, String.utf8ByteSize_ofList, hblanks]

theorem carries_padded (path : String) {members : List (String × Plain)} (h : members ≠ [])
    (blanks : Nat) : ((jsonPost path members).padded blanks).Carries (.ofPlain members) where
  type := by
    have htype : ((jsonPost path members).padded blanks).text? "content-type" =
        some "application/json" := by
      change (Request.mk "" "" "" [("content-type", "application/json")] "").text? _ = _
      decide +kernel
    have hjson : MediaType.isJson "application/json" = true := by decide +kernel
    rw [htype, Option.map_some, hjson]
    rfl
  body := by
    rw [Request.padded, jsonPost, ← String.ofList_append]
    exact Doc.first_writeObject h _
  whole := Members.isWhole_ofPlain members
  keyed := Members.isKeyed_ofPlain members

theorem carries_jsonPost (path : String) {members : List (String × Plain)} (h : members ≠ []) :
    (jsonPost path members).Carries (.ofPlain members) := by
  have hnone : (jsonPost path members).padded 0 = jsonPost path members := by
    rw [Request.padded, List.replicate_zero, String.ofList_nil, String.append_empty]
  rw [← hnone]
  exact carries_padded path h 0

def restingGateway : Gateway :=
  .start {} (.ofNetworks (catalogue.map (·.network)) "")

def restingSurroundings : Surroundings :=
  { node := .unreachable
    engine := fun _ => .error { code := .simulationFailed, message := "down" }
    connector := .unreachable
    now := 1
    freshId := .filled 16 9 }

end MempoolGate.Http
