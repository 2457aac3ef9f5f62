import MempoolGate.Proofs.Rpc.Client
import MempoolGate.Proofs.Rpc.Quantity

namespace MempoolGate.Rpc

open Json

variable {α β : Type}

def Call.Yields (node : Node) (call : Call α) (r : Reader β) (absent : Option β) (result : β) : Prop :=
  ∃ last status body, call.attempts.getLast? = some last ∧ node last = .answered status (some body) ∧
    200 ≤ status ∧ status ≤ 299 ∧ decodeReply r absent body = .ok result

def IsWord (s : String) : Prop :=
  ∃ w : UInt64, SpellsQuantity w.toNat s ∨ SpellsSigned w.toNat s

def IsAmount (s : String) : Prop :=
  ∃ w : Wei, SpellsQuantity w.toNat s ∨ SpellsGrouped w.toNat s

theorem quantityWord_eq_error_iff {s : String} :
    quantityWord s = .error (notAQuantity s) ↔ ¬IsWord s := by
  simp only [IsWord, ← quantityWord_eq_ok_iff]
  rcases quantityWord_cases s with ⟨w, h⟩ | h <;> simp [h]

theorem quantityWei_eq_error_iff {s : String} :
    quantityWei s = .error (notAQuantity s) ↔ ¬IsAmount s := by
  simp only [IsAmount, ← quantityWei_eq_ok_iff]
  rcases quantityWei_cases s with ⟨w, h⟩ | h <;> simp [h]

theorem isWord_iff_of_not_isQuantity {s : String} (h : ¬IsQuantity s) :
    IsWord s ↔ ∃ w : UInt64, SpellsSigned w.toNat s :=
  exists_congr fun w => or_iff_right fun hw => h (isQuantity_iff.mpr ⟨w.toNat, hw⟩)

theorem isAmount_iff_of_not_isQuantity {s : String} (h : ¬IsQuantity s) :
    IsAmount s ↔ ∃ w : Wei, SpellsGrouped w.toNat s :=
  exists_congr fun w => or_iff_right fun hw => h (isQuantity_iff.mpr ⟨w.toNat, hw⟩)

/-- A text that should be a number of 64 bits or of 256 bits and is none. -/
def Misspelt (words amounts : List String) (s : String) : Prop :=
  (s ∈ words ∧ ¬IsWord s) ∨ (s ∈ amounts ∧ ¬IsAmount s)

theorem misspelt_append {words words' amounts amounts' : List String} {s : String} :
    Misspelt (words ++ words') (amounts ++ amounts') s ↔
      Misspelt words amounts s ∨ Misspelt words' amounts' s := by
  unfold Misspelt
  grind

theorem not_misspelt_nil (s : String) : ¬Misspelt [] [] s := by
  simp [Misspelt]

def Checked (outcome : Except GatewayError α) (words amounts : List String) : Prop :=
  ((∀ s, ¬Misspelt words amounts s) ∧ ∃ a, outcome = .ok a) ∨
    ∃ s, Misspelt words amounts s ∧ outcome = .error (notAQuantity s)

theorem checked_ok (a : α) : Checked (.ok a) [] [] :=
  .inl ⟨not_misspelt_nil, a, rfl⟩

theorem checked_quantityWord (s : String) : Checked (quantityWord s) [s] [] := by
  rcases quantityWord_cases s with ⟨w, hw⟩ | herror
  · refine .inl ⟨?_, w, hw⟩
    rintro _ (⟨hs, hnot⟩ | ⟨hs, -⟩)
    · obtain rfl := List.mem_singleton.mp hs
      exact hnot ⟨w, quantityWord_eq_ok_iff.mp hw⟩
    · cases hs
  · exact .inr ⟨s, .inl ⟨List.mem_singleton_self s, quantityWord_eq_error_iff.mp herror⟩, herror⟩

theorem checked_quantityWei (s : String) : Checked (quantityWei s) [] [s] := by
  rcases quantityWei_cases s with ⟨w, hw⟩ | herror
  · refine .inl ⟨?_, w, hw⟩
    rintro _ (⟨hs, -⟩ | ⟨hs, hnot⟩)
    · cases hs
    · obtain rfl := List.mem_singleton.mp hs
      exact hnot ⟨w, quantityWei_eq_ok_iff.mp hw⟩
  · exact .inr ⟨s, .inr ⟨List.mem_singleton_self s, quantityWei_eq_error_iff.mp herror⟩, herror⟩

namespace Checked

variable {outcome : Except GatewayError β} {words words' amounts amounts' : List String}

theorem bind {f : β → Except GatewayError α} (h : Checked outcome words amounts)
    (hf : ∀ b, Checked (f b) words' amounts') :
    Checked (outcome >>= f) (words ++ words') (amounts ++ amounts') := by
  simp only [Checked, misspelt_append, not_or]
  rcases h with ⟨hread, b, rfl⟩ | ⟨s, hs, rfl⟩
  · rcases hf b with ⟨hread', hok⟩ | ⟨s, hs, herror⟩
    · exact .inl ⟨fun s => ⟨hread s, hread' s⟩, hok⟩
    · exact .inr ⟨s, .inr hs, herror⟩
  · -- what comes after a text that is none is never read
    exact .inr ⟨s, .inl hs, rfl⟩

theorem map (h : Checked outcome words amounts) (f : β → α) :
    Checked (outcome.map f) words amounts := by
  rcases h with ⟨hread, b, rfl⟩ | ⟨s, hs, rfl⟩
  · exact .inl ⟨hread, f b, rfl⟩
  · exact .inr ⟨s, hs, rfl⟩

end Checked

theorem NodeTx.checked_toPending (tx : NodeTx) : Checked tx.toPending [tx.gas] [tx.value] :=
  (checked_quantityWei tx.value).bind fun _ => (checked_quantityWord tx.gas).bind fun _ => checked_ok _

/-- A call succeeds only with a result in which all texts for numbers are numbers. With any other it
fails for a text that is none. -/
structure Query.IsStrict (q : Query α) (r : Reader β) (absent : Option β)
    (words amounts : β → List String) : Prop where
  succeeds : ∀ (c : Client) (node : Node) a, (c.ask node q).1.outcome = .ok a →
    ∃ result, (c.ask node q).1.Yields node r absent result ∧
      ∀ s, ¬Misspelt (words result) (amounts result) s
  fails : ∀ (c : Client) (node : Node) result, (c.ask node q).1.Yields node r absent result →
    ∀ s, Misspelt (words result) (amounts result) s →
    ∃ s', Misspelt (words result) (amounts result) s' ∧
      (c.ask node q).1.outcome = .error (notAQuantity s')

namespace Query

variable {r : Reader β} {absent : Option β} {words amounts : β → List String}

theorem isStrict_of_finish {q : Query α} {finish : β → Except GatewayError α}
    (hq : ∀ body, q.decode body = decodeReply r absent body >>= finish)
    (h : ∀ result s, Misspelt (words result) (amounts result) s →
      Checked (finish result) (words result) (amounts result)) :
    q.IsStrict r absent words amounts := by
  constructor
  · intro c node a hok
    obtain ⟨last, status, body, hlast, hnode, hlow, hhigh, hdecode⟩ := Client.exists_answer hok
    rw [hq] at hdecode
    cases hresult : decodeReply r absent body with
    | error e =>
      rw [hresult] at hdecode
      cases hdecode
    | ok result =>
      rw [hresult] at hdecode
      refine ⟨result, ⟨last, status, body, hlast, hnode, hlow, hhigh, hresult⟩, fun s hs => ?_⟩
      rcases h result s hs with ⟨hread, -⟩ | ⟨_, -, herror⟩
      · exact hread s hs
      · cases hdecode.symm.trans herror
  · rintro c node result ⟨last, status, body, hlast, hnode, hlow, hhigh, hresult⟩ s hs
    rw [Client.outcome_ask hlast, hnode, Exchange.outcome_answered hlow hhigh, hq, hresult]
    exact (h result s hs).resolve_left fun hread => hread.1 s hs

end Query

/-- Nothing is read as a number but digits behind the marker, a plus sign before those of 64 bits, and
underscores among those of 256 bits or in their place. No call makes anything of a reply with another
text for one of its numbers. -/
theorem quantities_strict (address : Address) (hash : TxHash) :
    (∀ s, (quantityWord s = .error (notAQuantity s) ↔ ¬IsWord s) ∧
      (quantityWei s = .error (notAQuantity s) ↔ ¬IsAmount s) ∧
      (notAQuantity s).code = .rpcInvalidResponse) ∧
    (∀ s, ¬IsQuantity s →
      (IsWord s ↔ ∃ w : UInt64, SpellsSigned w.toNat s) ∧
      (IsAmount s ↔ ∃ w : Wei, SpellsGrouped w.toNat s)) ∧
    (∀ q ∈ [Query.chainId, .blockNumber, .nonce address],
      q.IsStrict .text none (fun s => [s]) fun _ => []) ∧
    (∀ q ∈ [Query.gasPrice, .balance address], q.IsStrict .text none (fun _ => []) fun s => [s]) ∧
    Query.baseFee.IsStrict (.nullable BlockHead.fields.read) (some none)
      (fun head => (head.map (·.number)).toList) (fun head => (head.bind (·.baseFee)).toList) ∧
    (Query.transaction hash).IsStrict (.nullable NodeTx.fields.read) (some none)
      (fun tx => (tx.map (·.gas)).toList) fun tx => (tx.map (·.value)).toList := by
  refine ⟨fun s => ⟨quantityWord_eq_error_iff, quantityWei_eq_error_iff, rfl⟩,
    fun s hs => ⟨isWord_iff_of_not_isQuantity hs, isAmount_iff_of_not_isQuantity hs⟩, ?_, ?_, ?_, ?_⟩
  · intro q hq
    simp only [List.mem_cons, List.not_mem_nil, or_false] at hq
    rcases hq with rfl | rfl | rfl <;>
      exact Query.isStrict_of_finish (fun _ => rfl) fun s _ _ => checked_quantityWord s
  · intro q hq
    simp only [List.mem_cons, List.not_mem_nil, or_false] at hq
    rcases hq with rfl | rfl <;>
      exact Query.isStrict_of_finish (fun _ => rfl) fun s _ _ => checked_quantityWei s
  · refine Query.isStrict_of_finish (fun _ => rfl) fun head s hs => ?_
    cases head with
    | none => exact absurd hs (not_misspelt_nil s)
    | some head =>
      obtain ⟨raw, baseFee⟩ := head
      refine (checked_quantityWord raw).bind fun number => ?_
      cases baseFee with
      | none => exact checked_ok (number, none)
      | some raw =>
        exact ((checked_quantityWei raw).map some).bind fun fee => checked_ok (number, fee)
  · refine Query.isStrict_of_finish (fun _ => rfl) fun tx s hs => ?_
    cases tx with
    | none => exact absurd hs (not_misspelt_nil s)
    | some tx => exact tx.checked_toPending.map some

def blankNode : Node := fun _ => .answered 200 (some "\x7b\"result\":\"0x5 \"\x7d")

theorem quantities_strict_blank :
    let client : Client :=
      { serial := 0, network := { Network.placeholder with httpUrl := "http://[::1]" } }
    ¬IsQuantity "0x5 " ∧ quantityWord "0x5 " = .error (notAQuantity "0x5 ") ∧
      quantityWei "0x5 " = .error (notAQuantity "0x5 ") ∧
      (client.ask blankNode .gasPrice).1.outcome = .error (notAQuantity "0x5 ") := by
  intro client
  obtain ⟨herror, hlenient, -, hprice, -, -⟩ := quantities_strict (.filled 20 0) (.filled 32 0)
  obtain ⟨hword, hwei, -⟩ := herror "0x5 "
  have hnot : ¬IsQuantity "0x5 " := by decide
  obtain ⟨hsigned, hgrouped⟩ := hlenient "0x5 " hnot
  have hnoWord : ¬IsWord "0x5 " := by
    rw [hsigned]
    rintro ⟨w, digits, -, hs, -⟩
    revert hs
    simp
  have hnoAmount : ¬IsAmount "0x5 " := by
    rw [hgrouped]
    rintro ⟨w, digits, hmem, hs, -⟩
    obtain rfl : ['5', ' '] = digits := by simpa using hs
    exact absurd hmem (by decide)
  have hasked : (client.ask blankNode .gasPrice).1.attempts.getLast?.isSome := by decide +kernel
  obtain ⟨last, hlast⟩ := Option.isSome_iff_exists.mp hasked
  have hyields : (client.ask blankNode .gasPrice).1.Yields blankNode .text none "0x5 " :=
    ⟨last, 200, _, hlast, rfl, by decide, by decide, by decide +kernel⟩
  obtain ⟨s, hs, hfails⟩ := (hprice .gasPrice (by simp)).fails client blankNode _ hyields "0x5 "
    (.inr ⟨List.mem_singleton_self _, hnoAmount⟩)
  obtain rfl : s = "0x5 " := by simpa [Misspelt] using hs.imp id And.left
  exact ⟨hnot, hword.mpr hnoWord, hwei.mpr hnoAmount, hfails⟩

/-- A text with a sign is no quantity, nor is one with an underscore, and yet they are read. -/
theorem quantities_lenient :
    ¬IsQuantity "0x+5" ∧ quantityWord "0x+5" = .ok 5 ∧
      ¬IsQuantity "0x_" ∧ quantityWei "0x_" = .ok .zero := by
  decide +kernel

end MempoolGate.Rpc
