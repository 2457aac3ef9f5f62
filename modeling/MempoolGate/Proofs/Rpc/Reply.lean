import MempoolGate.Proofs.Chain.Address
import MempoolGate.Proofs.Json.Members
import MempoolGate.Proofs.Rpc.Quantity
import MempoolGate.Rpc.Client

namespace MempoolGate

namespace Rpc

open Json Text

theorem fixedBytes_of_spells {n : Nat} {x : FixedBytes n} {s : String}
    (h : SpellsBytes x.bytes s.toList) : Reader.fixedBytes n (.str (some s)) = .ok x := by
  have hbytes : Reader.bytes (.str (some s)) = .ok x.bytes := by
    simp only [Reader.bytes, Reader.textBy, hexBytes?_eq_some_iff.mpr h]
  have hlength : FixedBytes.ofBytes? n x.bytes = some x := dif_pos x.length_eq
  rw [Reader.fixedBytes, hbytes]
  simp only [bind, Except.bind, hlength]
  rfl

/-- The object under whose names these values stand tells of a transaction. -/
structure Tells (under : String → List Doc) (tx : PendingTx) : Prop where
  hash : ∃ s, under "hash" = [.str (some s)] ∧ SpellsBytes tx.hash.bytes s.toList
  sender : ∃ s, under "from" = [.str (some s)] ∧ SpellsBytes tx.sender.bytes s.toList
  recipient : tx.recipient = none ∧ (under "to" = [] ∨ under "to" = [.null]) ∨
    ∃ a s, tx.recipient = some a ∧ under "to" = [.str (some s)] ∧ SpellsBytes a.bytes s.toList
  value : ∃ s, under "value" = [.str (some s)] ∧ SpellsQuantity tx.value.toNat s
  payload : tx.input = [] ∧ under "input" = [] ∨
    ∃ s, under "input" = [.str (some s)] ∧ SpellsBytes tx.input s.toList
  gasLimit : ∃ s, under "gas" = [.str (some s)] ∧ SpellsQuantity tx.gasLimit.toNat s

theorem Tells.takes {under : String → List Doc} {tx : PendingTx} (h : Tells under tx) :
    ∃ node : NodeTx, NodeTx.fields.Takes under node ∧ node.toPending = .ok tx := by
  obtain ⟨hash, hhash, hhashBytes⟩ := h.hash
  obtain ⟨sender, hsender, hsenderBytes⟩ := h.sender
  obtain ⟨value, hvalue, hvalueDigits⟩ := h.value
  obtain ⟨gas, hgas, hgasDigits⟩ := h.gasLimit
  have hrecipient : (Fields.nullable "to" (Reader.fixedBytes 20)).Takes under tx.recipient := by
    rcases h.recipient with ⟨hnone, hto | hto⟩ | ⟨a, s, hsome, hto, hbytes⟩
    · rw [hnone]
      exact Fields.takes_one (.inl ⟨hto, rfl⟩)
    · rw [hnone]
      exact Fields.takes_one (.inr ⟨_, hto, rfl⟩)
    · rw [hsome]
      refine Fields.takes_one (.inr ⟨_, hto, ?_⟩)
      rw [Reader.nullable, fixedBytes_of_spells hbytes]
      · rfl
      · exact nofun
  have hpayload : (Fields.defaulted "input" Reader.bytes []).Takes under tx.input := by
    rcases h.payload with ⟨hnone, hinput⟩ | ⟨s, hinput, hbytes⟩
    · rw [hnone]
      exact Fields.takes_one (.inl ⟨hinput, rfl⟩)
    · refine Fields.takes_one (.inr ⟨_, hinput, ?_⟩)
      simp only [Reader.bytes, Reader.textBy, hexBytes?_eq_some_iff.mpr hbytes]
  refine ⟨⟨tx.hash, tx.sender, tx.recipient, value, tx.input, gas⟩, ?_, ?_⟩
  · exact (Fields.takes_one (.inr ⟨_, hhash, fixedBytes_of_spells hhashBytes⟩)).map NodeTx.mk
      |>.seq (Fields.takes_one (.inr ⟨_, hsender, fixedBytes_of_spells hsenderBytes⟩))
      |>.seq hrecipient
      |>.seq (Fields.takes_text hvalue)
      |>.seq hpayload
      |>.seq (Fields.takes_text hgas)
  · rw [NodeTx.toPending, hvalueDigits.quantityWei_iff.mpr rfl, hgasDigits.quantityWord_iff.mpr rfl]
    rfl

/-- The body of a reply whose result is a transaction and which tells of no error. -/
def Returns (body : String) (tx : PendingTx) : Prop :=
  ∃ reply result, Doc.only body = .obj reply ∧ reply.isWhole = true ∧ reply.isKeyed = true ∧
    reply.under "result" = [.obj result] ∧
    (reply.under "error" = [] ∨ reply.under "error" = [.null]) ∧
    result.isWhole = true ∧ result.isKeyed = true ∧ Tells result.under tx

theorem Returns.decode {body : String} {tx : PendingTx} (h : Returns body tx) (hash : TxHash) :
    (Query.transaction hash).decode body = .ok (some tx) := by
  obtain ⟨reply, result, hbody, hwhole, hkeyed, hresult, herror, hwhole', hkeyed', htells⟩ := h
  obtain ⟨node, htakes, hpending⟩ := htells.takes
  have hread : NodeTx.fields.read (.obj result) = .ok node := htakes.readMembers hwhole' hkeyed'
  have herrorField : (Fields.nullable "error" NodeError.fields.read).Takes reply.under none := by
    rcases herror with herror | herror
    · exact Fields.takes_one (.inl ⟨herror, rfl⟩)
    · exact Fields.takes_one (.inr ⟨_, herror, rfl⟩)
  have hresultField : (Fields.nullable "result" (Reader.nullable NodeTx.fields.read)).Takes
      reply.under (some (some node)) := by
    refine Fields.takes_one (.inr ⟨_, hresult, ?_⟩)
    simp only [Reader.nullable, hread]
    rfl
  have henvelope : (Envelope.fields (Reader.nullable NodeTx.fields.read)).read (Doc.only body) =
      .ok ⟨some (some node), none⟩ := by
    rw [hbody]
    exact ((hresultField.map Envelope.mk).seq herrorField).readMembers hwhole hkeyed
  simp only [Query.transaction, Query.ofOption, decodeReply, henvelope, bind, Except.bind, hpending]
  rfl

end Rpc

end MempoolGate
