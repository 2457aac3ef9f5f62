import MempoolGate.Feed.Line
import MempoolGate.Proofs.Json.Record
import MempoolGate.Proofs.Uuid

namespace MempoolGate

open Json

theorem Json.Plain.fits_ofOption (o : Option String) : (Plain.ofOption o).Fits := by
  cases o <;> exact trivial

theorem Json.Fields.accepts_nullable (name : String) (o : Option String) :
    (Fields.nullable name .text).Accepts [(name, .ofOption o)] o := by
  refine accepts_one ?_ false (.ok none)
  cases o <;> rfl

theorem RiskLevel.reader_name (level : RiskLevel) :
    reader (Plain.str level.name).doc = .ok level := by
  cases level <;> rfl

theorem TxReport.accepts_members (r : TxReport) : fields.Accepts r.members r :=
  (Fields.accepts_text "hash" r.hash).map TxReport.mk
    |>.seq (Fields.accepts_text "from" r.sender)
    |>.seq (Fields.accepts_nullable "to" r.recipient)
    |>.seq (Fields.accepts_text "value" r.value)
    |>.seq (Fields.accepts_text "value_native" r.valueNative)
    |>.seq (Fields.accepts_text "calldata_prefix" r.selector)
    |>.seq (Fields.accepts_word "calldata_len" r.payloadLength)
    |>.seq (Fields.accepts_word "gas_limit" r.gasLimit)
    |>.seq (Fields.accepts_required "risk_score" (Reader.byte_written r.riskScore))
    |>.seq (Fields.accepts_required "risk_level" r.riskLevel.reader_name)
    |>.seq (Fields.accepts_required "risk_reasons" (Reader.list_written r.riskReasons))
    |>.seq (Fields.accepts_text "network" r.network)
    |>.seq (Fields.accepts_nullable "known_contract" r.knownContract)
    |>.seq (Fields.accepts_required "timestamp" (Reader.signed_written r.timestamp))

theorem Event.accepts_connected (id : Uuid) (network : String) (chainId endpointIndex : UInt64)
    (message : String) : connectedFields.Accepts
      (connected id network chainId endpointIndex message).members
      (connected id network chainId endpointIndex message) := by
  have hid : Reader.uuid (Plain.str id.text).doc = .ok id := by
    rw [Plain.doc, Reader.uuid, Reader.textBy]
    simp only [id.parse?_text]
  exact (Fields.accepts_required "session_id" hid).map Event.connected
    |>.seq (Fields.accepts_text "network" network)
    |>.seq (Fields.accepts_word "chain_id" chainId)
    |>.seq (Fields.accepts_word "endpoint_index" endpointIndex)
    |>.seq (Fields.accepts_text "message" message)

theorem Event.accepts_failure (network code message : String) :
    failureFields.Accepts (failure network code message).members (failure network code message) :=
  (Fields.accepts_text "network" network).map Event.failure
    |>.seq (Fields.accepts_text "code" code)
    |>.seq (Fields.accepts_text "message" message)

theorem Event.exists_fields (e : Event) :
    ∃ fields, fieldsOf? e.kind = some fields ∧ fields.Accepts e.members e := by
  cases e with
  | connected id network chainId endpointIndex message =>
    exact ⟨_, rfl, accepts_connected id network chainId endpointIndex message⟩
  | tx report => exact ⟨_, rfl, report.accepts_members.map Event.tx⟩
  | failure network code message => exact ⟨_, rfl, accepts_failure network code message⟩

theorem TxReport.fits_members (r : TxReport) : ∀ m ∈ r.members, m.2.Fits := by
  simp only [members, List.forall_mem_cons, Plain.fits_word, Plain.fits_byte, Plain.fits_signed,
    Plain.fits_ofOption]
  simp [Plain.Fits]

theorem Event.fits_members (e : Event) : ∀ m ∈ e.members, m.2.Fits := by
  cases e with
  | connected id network chainId endpointIndex message =>
    simp only [members, List.forall_mem_cons, Plain.fits_word]
    simp [Plain.Fits]
  | tx report => exact report.fits_members
  | failure network code message => simp [members, Plain.Fits]

theorem Event.nodup_keys (e : Event) : ("type" :: e.members.map Prod.fst).Nodup := by
  cases e <;> simp [members, TxReport.members]

theorem Event.untagged_eq (e : Event) : e.untagged = .members e.members := by
  cases e <;> rfl

/-- Every event can be written, so that the line for those that cannot is never taken. -/
theorem Event.write_untagged (e : Event) :
    e.untagged.write e.typeName e.kind = .ok (writeObject e.tagged) := by
  rw [untagged_eq]
  rfl

theorem Event.toList_line (e : Event) : e.line.toList = writeObject e.tagged ++ ['\n'] := by
  rw [line, write_untagged]
  exact String.toList_ofList

theorem Event.parse_writeObject (e : Event) :
    parse (String.ofList (writeObject e.tagged)) = .ok e := by
  obtain ⟨fields, hfields, haccepts⟩ := e.exists_fields
  have hkeys := List.nodup_cons.mp e.nodup_keys
  have htagged := Doc.tagged_ofPlain e.kind e.fits_members hkeys.1
  rw [parse, tagged, Doc.only_writeObject _ (List.cons_ne_nil _ _), htagged]
  simp only [bind, Except.bind, hfields]
  exact haccepts.readMembers hkeys.2

theorem Event.newline_notMem (e : Event) : '\n' ∉ writeObject e.tagged :=
  newline_notMem_writeObject e.tagged

theorem Event.count_newline (e : Event) : e.line.toList.count '\n' = 1 := by
  rw [toList_line, List.count_append, List.count_eq_zero_of_not_mem e.newline_notMem]
  rfl

theorem Event.getLast?_line (e : Event) : e.line.toList.getLast? = some '\n' := by
  rw [toList_line]
  exact List.getLast?_concat

/-- The feed falls apart at the newlines into the objects that were written. -/
theorem splitOn_feed (events : List Event) :
    (String.join (events.map Event.line)).toList.splitOn '\n' =
      events.map (fun e => writeObject e.tagged) ++ [[]] := by
  induction events with
  | nil => rfl
  | cons e events ih =>
    rw [List.map_cons, String.join_cons, String.toList_append, e.toList_line, List.append_assoc,
      List.singleton_append, List.splitOn_append_cons_self_of_not_mem e.newline_notMem, ih]
    rfl

/-- The text of a feed is nothing behind its last newline, and what stands before each newline is read
as the event that was written there. Every event can be written, with one newline, at the end. -/
theorem Event.parse_feed (events : List Event) :
    let texts := (String.join (events.map line)).toList.splitOn '\n'
    (texts.getLast? = some [] ∧
      texts.dropLast.map (fun cs => parse (String.ofList cs)) = events.map Except.ok) ∧
    ∀ e : Event, e.line.toList.count '\n' = 1 ∧ e.line.toList.getLast? = some '\n' ∧
      ∃ cs, e.untagged.write e.typeName e.kind = .ok cs ∧ e.line = String.ofList (cs ++ ['\n']) := by
  intro texts
  have htexts : texts = events.map (fun e => writeObject e.tagged) ++ [[]] := splitOn_feed events
  refine ⟨⟨?_, ?_⟩, fun e => ⟨e.count_newline, e.getLast?_line, _, e.write_untagged, ?_⟩⟩
  · rw [htexts]
    exact List.getLast?_concat
  · rw [htexts, List.dropLast_concat, List.map_map]
    exact List.map_congr_left fun e _ => e.parse_writeObject
  · rw [← String.toList_inj, String.toList_ofList, e.toList_line]

end MempoolGate
