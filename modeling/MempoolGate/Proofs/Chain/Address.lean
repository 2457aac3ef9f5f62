import MempoolGate.Proofs.Chain.Spelling

namespace MempoolGate

namespace Digest.Keccak256

variable {s : Lanes}

theorem length_round (s : Lanes) (constant : UInt64) : (round s constant).length = 25 := by
  have hchi : (chi (rhoPi (theta s))).length = 25 := by
    rw [chi, ofLanes, List.length_map, List.length_range]
  unfold round
  split
  · next first rest heq =>
    rw [heq] at hchi
    exact hchi
  · next heq =>
    rw [heq] at hchi
    cases hchi

theorem length_permute (h : s.length = 25) : (permute s).length = 25 := by
  rw [permute]
  exact List.foldlRecOn (motive := fun s => s.length = 25) roundConstants round h
    fun s _ constant _ => length_round s constant

theorem length_absorb (s : Lanes) (block : List UInt8) : (absorb s block).length = 25 := by
  apply length_permute
  rw [List.length_map, List.length_range]

theorem length_absorbAll (blocks : Nat) (h : s.length = 25) (bytes : List UInt8) :
    (absorbAll blocks s bytes).length = 25 := by
  induction blocks generalizing s bytes with
  | zero => exact h
  | succ blocks ih => exact ih (length_absorb s _) _

theorem length_digest (message : List UInt8) : (digest message).length = 32 := by
  have hfinal := length_absorbAll (s := List.replicate 25 0) ((pad message).length / rate)
    List.length_replicate (pad message)
  simp only [digest, List.length_flatMap, List.length_map, List.length_range, List.map_const',
    List.length_take, hfinal]
  rfl

end Digest.Keccak256

theorem length_halves (bytes : List UInt8) : (halves bytes).length = 2 * bytes.length := by
  simp [halves, List.length_flatMap, List.map_const', Nat.mul_comm]

theorem toLower_raiseDigit : ∀ d < 16, ∀ digest : UInt8,
    (raiseDigit (Text.hexDigit d) digest).toLower = Text.hexDigit d := by
  have hlower : ∀ d < 16, (Text.hexDigit d).toLower = Text.hexDigit d := by decide
  have hupper : ∀ d < 16, (Text.hexDigit d).toUpper.toLower = Text.hexDigit d := by decide
  intro d hd digest
  unfold raiseDigit
  split
  · exact hupper d hd
  · exact hlower d hd

theorem toLower_zipWith_raiseDigit {digits : List Char} {digest : List UInt8}
    (hdigits : ∀ c ∈ digits, ∃ d < 16, c = Text.hexDigit d)
    (hlength : digits.length ≤ digest.length) :
    (digits.zipWith raiseDigit digest).map Char.toLower = digits := by
  induction digits generalizing digest with
  | nil => rfl
  | cons c digits ih =>
    rw [List.forall_mem_cons] at hdigits
    obtain ⟨⟨d, hd, rfl⟩, hmore⟩ := hdigits
    cases digest with
    | nil => exact absurd hlength (Nat.not_succ_le_zero _)
    | cons b digest =>
      rw [List.zipWith_cons_cons, List.map_cons, toLower_raiseDigit d hd,
        ih hmore (Nat.le_of_succ_le_succ hlength)]

namespace FixedBytes

theorem parse?_eq_some_iff {n : Nat} {s : String} {x : FixedBytes n} :
    parse? n s = some x ↔ Text.SpellsBytes x.bytes s.toList := by
  rw [← Text.hexBytes?_eq_some_iff]
  simp only [parse?, Option.bind_eq_some_iff, ofBytes?]
  constructor
  · rintro ⟨bytes, hbytes, h⟩
    split at h
    · cases h
      exact hbytes
    · cases h
  · intro h
    exact ⟨x.bytes, h, dif_pos x.length_eq⟩

theorem spellsBytes_checksummed (a : Address) :
    Text.SpellsBytes a.bytes a.checksummed.toList := by
  have hlength : (Text.hexEncode a.bytes).length = 40 := by
    rw [Text.length_hexEncode, a.length_eq]
  rw [checksummed, String.toList_ofList]
  refine ⟨['0', 'x'], by simp, _, rfl, toLower_zipWith_raiseDigit (fun c hc => ?_) ?_⟩
  · exact Text.exists_hexDigit hc
  · rw [length_halves, Digest.Keccak256.length_digest, hlength]
    decide

theorem parse?_checksummed (a : Address) : parse? 20 a.checksummed = some a :=
  parse?_eq_some_iff.mpr a.spellsBytes_checksummed

end FixedBytes

theorem Text.hexBytes?_hexText (bytes : List UInt8) : hexBytes? (hexText bytes) = some bytes := by
  rw [hexBytes?, hexText, String.toList_ofList]
  exact hexDecode?_hexEncode bytes

end MempoolGate
