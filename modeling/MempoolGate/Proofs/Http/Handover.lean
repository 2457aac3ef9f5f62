import MempoolGate.Http.Handlers
import MempoolGate.Proofs.Chain.Native
import MempoolGate.Proofs.Http.Body
import MempoolGate.Proofs.Registry

namespace MempoolGate.Http

open Json Text

theorem arguments_handedOver (network : Network) (sender recipient : Address) (value : Wei)
    (payload : List UInt8) (gasLimit : UInt64) :
    (handedOver network sender recipient value payload gasLimit).arguments =
      .ok ["--json", "--rpc", network.httpUrl, "simulate", "--from", sender.checksummed,
        "--to", recipient.checksummed, "--value", value.native, "--data", hexText payload,
        "--gas", decimal gasLimit.toNat] := by
  simp only [handedOver, Simulation.Request.arguments, value.parse?_decimal]
  rfl

theorem simulate_of_accepted (s : Surroundings) {registry : Registry} {body : SimulateBody}
    {request : Simulation.Request} (h : body.toRequest registry = .ok request) :
    simulate s registry body = (s.engine request).map Payload.simulated := by
  rw [simulate, h]
  simp only [bind, Except.bind]
  cases s.engine request <;> rfl

namespace Surroundings

/-- A body that is accepted reaches the engine as arguments from which its transaction can be read back,
and whatever else spells the same transaction, with whatever name of the network, reaches it as the same
request. An object that is not too long is read as the body that its members write, in any order and among
others. -/
theorem handle_simulate (s : Surroundings) (g : Gateway) (r : Request) (body : SimulateBody)
    (hbody : r.json SimulateBody.fields = .ok body) :
    (∀ request, body.toRequest g.registry = .ok request →
      s.handle g r .simulate = (.ofResult ((s.engine request).map Payload.simulated), g) ∧
      ∃ sender recipient value payload fromText toText valueText dataText units,
        body.Spells sender recipient value payload ∧
        request.arguments =
          .ok ["--json", "--rpc", (g.registry.resolve (body.network.getD "")).httpUrl, "simulate",
            "--from", fromText, "--to", toText, "--value", valueText, "--data", dataText,
            "--gas", decimal body.gasLimit.toNat] ∧
        FixedBytes.parse? 20 fromText = some sender ∧ FixedBytes.parse? 20 toText = some recipient ∧
        decimalNumber? valueText = some units ∧ units * 10 ^ 18 = value.toNat ∧
        hexBytes? dataText = some payload) ∧
    (∀ r' body' sender recipient value payload, r'.json SimulateBody.fields = .ok body' →
      body.Spells sender recipient value payload → body'.Spells sender recipient value payload →
      body'.gasLimit = body.gasLimit →
      g.registry.resolve (body'.network.getD "") = g.registry.resolve (body.network.getD "") →
      ∃ request arguments, request.arguments = .ok arguments ∧
        s.handle g r .simulate = (.ofResult ((s.engine request).map Payload.simulated), g) ∧
        s.handle g r' .simulate = (.ofResult ((s.engine request).map Payload.simulated), g)) ∧
    (∀ name other, SameName name other → g.registry.resolve name = g.registry.resolve other) ∧
    ∀ (r' : Request) members (body' : SimulateBody), r'.Carries members →
      r'.body.utf8ByteSize ≤ maxBodyBytes → body'.Written members.under →
      r'.json SimulateBody.fields = .ok body' := by
  have hhandle : ∀ {r : Request} {body : SimulateBody} {request : Simulation.Request},
      r.json SimulateBody.fields = .ok body → body.toRequest g.registry = .ok request →
      s.handle g r .simulate = (.ofResult ((s.engine request).map Payload.simulated), g) := by
    intro r body request hbody hrequest
    simp only [handle, hbody, simulate_of_accepted s hrequest]
  refine ⟨fun request hrequest => ⟨hhandle hbody hrequest, ?_⟩, ?_,
    fun _ _ => g.registry.resolve_of_sameName,
    fun _ _ _ hcarries hsize hwritten => hcarries.json hsize hwritten.takes⟩
  · obtain ⟨sender, recipient, value, payload, hspells, rfl⟩ :=
      SimulateBody.toRequest_eq_ok_iff.mp hrequest
    have hunits : ((value.toNat : ℚ) / weiPerNative) * 10 ^ 18 = value.toNat := by
      have hper : ((weiPerNative : Nat) : ℚ) = 10 ^ 18 := by norm_num [weiPerNative]
      rw [hper]
      exact div_mul_cancel₀ _ (by norm_num)
    exact ⟨sender, recipient, value, payload, _, _, _, _, _, hspells,
      arguments_handedOver _ sender recipient value payload body.gasLimit,
      sender.parse?_checksummed, recipient.parse?_checksummed, value.decimalNumber?_native, hunits,
      hexBytes?_hexText payload⟩
  · intro r' body' sender recipient value payload hbody' hspells hspells' hgas hnetwork
    have hrequest : body.toRequest g.registry = .ok _ :=
      SimulateBody.toRequest_eq_ok_iff.mpr ⟨sender, recipient, value, payload, hspells, rfl⟩
    have hrequest' : body'.toRequest g.registry = .ok _ :=
      SimulateBody.toRequest_eq_ok_iff.mpr ⟨sender, recipient, value, payload, hspells', rfl⟩
    rw [hgas, hnetwork] at hrequest'
    exact ⟨_, _, arguments_handedOver _ _ _ _ _ _, hhandle hbody hrequest,
      hhandle hbody' hrequest'⟩

def plainMembers : List (String × Plain) :=
  [("from", .str "0X7A250D5630B4CF539739DF2C5DACB4C659F2488D"),
   ("to", .str "0x1111111254EEB25477B68fb85Ed929f73A960582"),
   ("value", .str "0xDE0B6B3A7640001"), ("data", .str "0xA9059CBB"), ("network", .str "ETH")]

def plainBody : SimulateBody :=
  { sender := "0X7A250D5630B4CF539739DF2C5DACB4C659F2488D"
    recipient := "0x1111111254EEB25477B68fb85Ed929f73A960582"
    value := some "0xDE0B6B3A7640001", payload := some "0xA9059CBB", gasLimit := 500000
    network := some "ETH" }

def paddedMembers : List (String × Plain) :=
  [("network", .str " 1 "), ("data", .str " a9059cbb"), ("gas_limit", .int 500000),
   ("value", .str "1_000000000000000001"),
   ("to", .str " 1111111254eeb25477b68fb85ed929f73a960582"),
   ("from", .str "7a250d5630b4cf539739df2c5dacb4c659f2488d ")]

def paddedBody : SimulateBody :=
  { sender := "7a250d5630b4cf539739df2c5dacb4c659f2488d "
    recipient := " 1111111254eeb25477b68fb85ed929f73a960582"
    value := some "1_000000000000000001", payload := some " a9059cbb", gasLimit := 500000
    network := some " 1 " }

theorem written_plainBody : plainBody.Written (Members.ofPlain plainMembers).under := by
  constructor <;> simp only [Members.under_ofPlain, plainMembers, plainBody] <;> simp [Plain.doc]
  · exact .text _
  · exact .text _
  · exact .absent
  · exact .text _

theorem written_paddedBody : paddedBody.Written (Members.ofPlain paddedMembers).under := by
  constructor <;> simp only [Members.under_ofPlain, paddedMembers, paddedBody] <;> simp [Plain.doc]
  · exact .text _
  · exact .text _
  · exact .number (value?_numeralOf (by decide) (by decide))
  · exact .text _

def senderBytes : Address :=
  ⟨[0x7a, 0x25, 0x0d, 0x56, 0x30, 0xb4, 0xcf, 0x53, 0x97, 0x39, 0xdf, 0x2c, 0x5d, 0xac, 0xb4, 0xc6,
    0x59, 0xf2, 0x48, 0x8d], rfl⟩

def recipientBytes : Address :=
  ⟨[0x11, 0x11, 0x11, 0x12, 0x54, 0xee, 0xb2, 0x54, 0x77, 0xb6, 0x8f, 0xb8, 0x5e, 0xd9, 0x29, 0xf7,
    0x3a, 0x96, 0x05, 0x82], rfl⟩

theorem spells_plainBody : plainBody.Spells senderBytes recipientBytes ⟨1000000000000000001, by decide⟩
    [0xa9, 0x05, 0x9c, 0xbb] where
  sender := spellsAddress_iff.mpr (by decide +kernel)
  recipient := spellsAddress_iff.mpr (by decide +kernel)
  value := readWei_eq_ok_iff.mp (by decide +kernel)
  payload := readPayload_eq_ok_iff.mp (by decide +kernel)

theorem spells_paddedBody : paddedBody.Spells senderBytes recipientBytes ⟨1000000000000000001, by decide⟩
    [0xa9, 0x05, 0x9c, 0xbb] where
  sender := spellsAddress_iff.mpr (by decide +kernel)
  recipient := spellsAddress_iff.mpr (by decide +kernel)
  value := readWei_eq_ok_iff.mp (by decide +kernel)
  payload := readPayload_eq_ok_iff.mp (by decide +kernel)

/-- Two objects that spell one transaction for one network. -/
theorem handle_simulate_paddedMembers :
    let plain := jsonPost "/v1/simulate" plainMembers
    let padded := jsonPost "/v1/simulate" paddedMembers
    plain.json SimulateBody.fields = .ok plainBody ∧
    ∃ request arguments, request.arguments = .ok arguments ∧
      restingSurroundings.handle restingGateway plain .simulate =
        (.ofResult ((restingSurroundings.engine request).map Payload.simulated), restingGateway) ∧
      restingSurroundings.handle restingGateway padded .simulate =
        (.ofResult ((restingSurroundings.engine request).map Payload.simulated), restingGateway) := by
  have hplain : (jsonPost "/v1/simulate" plainMembers).json SimulateBody.fields = .ok plainBody :=
    (carries_jsonPost _ (List.cons_ne_nil _ _)).json (by decide +kernel) written_plainBody.takes
  have hpadded : (jsonPost "/v1/simulate" paddedMembers).json SimulateBody.fields = .ok paddedBody :=
    (carries_jsonPost _ (List.cons_ne_nil _ _)).json (by decide +kernel) written_paddedBody.takes
  obtain ⟨-, hsame, hnames, -⟩ :=
    handle_simulate restingSurroundings restingGateway _ plainBody hplain
  have hnetwork := hnames " 1 " "ETH" (.inr ⟨"ethereum", by decide +kernel, by decide +kernel⟩)
  exact ⟨hplain, hsame _ paddedBody _ _ _ _ hpadded spells_plainBody spells_paddedBody rfl hnetwork⟩

end Surroundings

end MempoolGate.Http
