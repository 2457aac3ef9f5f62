import MempoolGate.Proofs.Chain.Spelling
import MempoolGate.Rpc.Quantity

namespace MempoolGate.Rpc

open Text

def SpellsQuantity (n : Nat) (s : String) : Prop :=
  ∃ digits, digits ≠ [] ∧ s.toList = '0' :: 'x' :: digits ∧ Denotes 16 digits n

def SpellsSigned (n : Nat) (s : String) : Prop :=
  ∃ digits, digits ≠ [] ∧ s.toList = '0' :: 'x' :: '+' :: digits ∧ Denotes 16 digits n

def SpellsGrouped (n : Nat) (s : String) : Prop :=
  ∃ digits, '_' ∈ digits ∧ s.toList = '0' :: 'x' :: digits ∧
    Denotes 16 (digits.filter (· ≠ '_')) n

def IsQuantity (s : String) : Prop :=
  s.toList.take 2 = ['0', 'x'] ∧ s.toList.drop 2 ≠ [] ∧
    s.toList.drop 2 ⊆ "0123456789abcdefABCDEF".toList
deriving Decidable

variable {s : String} {n : Nat} {digits : List Char}

theorem unsignedHex?_eq_some_iff :
    unsignedHex? digits = some n ↔
      ∃ rest, rest ≠ [] ∧ (digits = rest ∨ digits = '+' :: rest) ∧ Denotes 16 rest n := by
  unfold unsignedHex?
  extract_lets unsigned
  have hunsigned : digits = '+' :: unsigned ∨ digits = unsigned ∧ ∀ rest, digits ≠ '+' :: rest := by
    simp only [unsigned]
    split
    · exact .inl rfl
    · next hplus => exact .inr ⟨rfl, hplus⟩
  have hread : (if unsigned = [] then none else digitsFrom? 16 hexDigit? 0 unsigned) = some n ↔
      unsigned ≠ [] ∧ Denotes 16 unsigned n := by
    rw [← digitsFrom?_eq_some_iff reads_hexDigit?]
    split <;> simp_all
  rw [hread]
  constructor
  · rintro ⟨hne, hdenotes⟩
    exact ⟨unsigned, hne, hunsigned.symm.imp_left And.left, hdenotes⟩
  · rintro ⟨rest, hne, hrest, hdenotes⟩
    have hsame : unsigned = rest := by
      rcases hunsigned with hplus | ⟨hplain, hnone⟩
      · rcases hrest with hrest | hrest
        · -- a row of digits has no plus sign
          have hmem : '+' ∈ rest := by
            rw [← hrest, hplus]
            exact List.mem_cons_self
          exact absurd hmem (notMem_digits (by decide) hdenotes '+' (by simp))
        · exact (List.cons.inj (hplus.symm.trans hrest)).2
      · exact hplain.symm.trans (hrest.resolve_right (hnone rest))
    rw [hsame]
    exact ⟨hne, hdenotes⟩

theorem quantityWord_eq_ok_iff {w : UInt64} :
    quantityWord s = .ok w ↔ SpellsQuantity w.toNat s ∨ SpellsSigned w.toNat s := by
  have hspells : SpellsQuantity w.toNat s ∨ SpellsSigned w.toNat s ↔
      ∃ digits, s.toList = '0' :: 'x' :: digits ∧ unsignedHex? digits = some w.toNat := by
    simp only [unsignedHex?_eq_some_iff]
    constructor
    · rintro (⟨rest, hne, hs, hdenotes⟩ | ⟨rest, hne, hs, hdenotes⟩)
      · exact ⟨_, hs, rest, hne, .inl rfl, hdenotes⟩
      · exact ⟨_, hs, rest, hne, .inr rfl, hdenotes⟩
    · rintro ⟨_, hs, rest, hne, rfl | rfl, hdenotes⟩
      · exact .inl ⟨_, hne, hs, hdenotes⟩
      · exact .inr ⟨_, hne, hs, hdenotes⟩
  rw [hspells]
  unfold quantityWord
  constructor
  · intro h
    split at h
    · next digits hs =>
      split at h
      · next n hn =>
        obtain ⟨hread, hfits⟩ := Option.filter_eq_some_iff.mp hn
        cases h
        rw [UInt64.toNat_ofNat_of_lt' (of_decide_eq_true hfits)]
        exact ⟨digits, hs, hread⟩
      · cases h
    · cases h
  · rintro ⟨digits, hs, hread⟩
    have hfits : (unsignedHex? digits).filter (· < UInt64.size) = some w.toNat := by
      rw [hread]
      exact Option.filter_some_pos (decide_eq_true w.toNat_lt_size)
    simp only [hs, hfits, UInt64.ofNat_toNat]

theorem spells_hex_iff {rest : List Char} :
    Literal.Spells n ('0' :: 'x' :: rest) ↔ Denotes 16 (rest.filter (· ≠ '_')) n := by
  constructor
  · rintro ⟨marker, hmarker, digits, hs, hdigits⟩
    have hradix := Literal.radixOf_append hmarker hdigits
    rw [← hs] at hradix
    obtain ⟨hsixteen, rfl⟩ := Prod.mk.inj hradix
    rwa [← hsixteen] at hdigits
  · intro h
    exact ⟨(['0', 'x'], 16), by simp [Literal.markers], rest, rfl, h⟩

theorem quantityWei_eq_ok_iff {w : Wei} :
    quantityWei s = .ok w ↔ SpellsQuantity w.toNat s ∨ SpellsGrouped w.toNat s := by
  have hspells : SpellsQuantity w.toNat s ∨ SpellsGrouped w.toNat s ↔
      ∃ digits, digits ≠ [] ∧ s.toList = '0' :: 'x' :: digits ∧ Wei.parse? s = some w := by
    simp only [Wei.parse?_eq_some_iff]
    constructor
    · rintro (⟨digits, hne, hs, hdenotes⟩ | ⟨digits, hmem, hs, hdenotes⟩)
      · refine ⟨digits, hne, hs, ?_⟩
        rw [hs, spells_hex_iff, filter_digits (by decide) hdenotes]
        exact hdenotes
      · refine ⟨digits, List.ne_nil_of_mem hmem, hs, ?_⟩
        rw [hs, spells_hex_iff]
        exact hdenotes
    · rintro ⟨digits, hne, hs, hspells⟩
      rw [hs, spells_hex_iff] at hspells
      by_cases hmem : '_' ∈ digits
      · exact .inr ⟨digits, hmem, hs, hspells⟩
      · have hfilter : digits.filter (· ≠ '_') = digits :=
          List.filter_eq_self.mpr fun c hc => decide_eq_true fun he => hmem (he ▸ hc)
        rw [hfilter] at hspells
        exact .inl ⟨digits, hne, hs, hspells⟩
  rw [hspells]
  unfold quantityWei
  constructor
  · intro h
    split at h
    · next c rest hs =>
      split at h
      · next hparse =>
        cases h
        exact ⟨c :: rest, List.cons_ne_nil c rest, hs, hparse⟩
      · cases h
    · cases h
  · rintro ⟨digits, hne, hs, hparse⟩
    obtain ⟨c, rest, rfl⟩ := List.exists_cons_of_ne_nil hne
    simp only [hs, hparse]

theorem quantityWord_cases (s : String) :
    (∃ w, quantityWord s = .ok w) ∨ quantityWord s = .error (notAQuantity s) := by
  unfold quantityWord
  split
  · split
    · exact .inl ⟨_, rfl⟩
    · exact .inr rfl
  · exact .inr rfl

theorem quantityWei_cases (s : String) :
    (∃ w, quantityWei s = .ok w) ∨ quantityWei s = .error (notAQuantity s) := by
  unfold quantityWei
  split
  · split
    · exact .inl ⟨_, rfl⟩
    · exact .inr rfl
  · exact .inr rfl

theorem mem_hexDigits_iff (c : Char) :
    c ∈ "0123456789abcdefABCDEF".toList ↔ ∃ d < 16, c.toLower = Nat.digitChar d := by
  refine forall_char (P := fun c => c ∈ "0123456789abcdefABCDEF".toList ↔
    ∃ d < 16, c.toLower = Nat.digitChar d) (by decide +kernel) ?_ c
  intro c hc
  refine iff_of_false (fun hmem => ?_) fun ⟨d, hd, hlower⟩ => toLower_ne_digitChar hc hd hlower
  have hlow : "0123456789abcdefABCDEF".toList.all (·.toNat < 128) = true := by decide
  have hlt := of_decide_eq_true (List.all_eq_true.mp hlow c hmem)
  omega

theorem isQuantity_iff : IsQuantity s ↔ ∃ n, SpellsQuantity n s := by
  unfold IsQuantity
  simp only [List.subset_def, mem_hexDigits_iff, ← exists_denotes_iff]
  constructor
  · rintro ⟨hmarker, hne, n, hdenotes⟩
    refine ⟨n, s.toList.drop 2, hne, ?_, hdenotes⟩
    exact (List.take_append_drop 2 s.toList).symm.trans (congrArg (· ++ s.toList.drop 2) hmarker)
  · rintro ⟨n, digits, hne, hs, hdenotes⟩
    rw [hs]
    exact ⟨rfl, hne, n, hdenotes⟩

namespace SpellsQuantity

theorem unique {m : Nat} (h : SpellsQuantity n s) (h' : SpellsQuantity m s) : m = n := by
  obtain ⟨digits, -, hs, hdenotes⟩ := h
  obtain ⟨digits', -, hs', hdenotes'⟩ := h'
  obtain ⟨-, -, rfl⟩ : '0' = '0' ∧ 'x' = 'x' ∧ digits' = digits := by simpa using hs'.symm.trans hs
  rw [← digitsFrom?_eq_some_iff reads_hexDigit?] at hdenotes hdenotes'
  exact Option.some.inj (hdenotes'.symm.trans hdenotes)

theorem not_signed {m : Nat} (h : SpellsQuantity n s) : ¬SpellsSigned m s := by
  rintro ⟨rest, -, hs', -⟩
  obtain ⟨digits, -, hs, hdenotes⟩ := h
  have hdigits : digits = '+' :: rest := by simpa using hs.symm.trans hs'
  exact notMem_digits (by decide) hdenotes '+' (by simp) (hdigits ▸ List.mem_cons_self)

theorem not_grouped {m : Nat} (h : SpellsQuantity n s) : ¬SpellsGrouped m s := by
  rintro ⟨digits', hmem, hs', -⟩
  obtain ⟨digits, -, hs, hdenotes⟩ := h
  have hdigits : digits = digits' := by simpa using hs.symm.trans hs'
  exact notMem_digits (by decide) hdenotes '_' (by simp) (hdigits ▸ hmem)

theorem quantityWord_iff (h : SpellsQuantity n s) {w : UInt64} :
    Rpc.quantityWord s = .ok w ↔ w.toNat = n := by
  rw [quantityWord_eq_ok_iff, or_iff_left h.not_signed]
  exact ⟨h.unique, fun hw => hw ▸ h⟩

theorem quantityWei_iff (h : SpellsQuantity n s) {w : Wei} :
    Rpc.quantityWei s = .ok w ↔ w.toNat = n := by
  rw [quantityWei_eq_ok_iff, or_iff_left h.not_grouped]
  exact ⟨h.unique, fun hw => hw ▸ h⟩

end SpellsQuantity

/-- The digits of a number, in either case and with any number of zeros before them, are read as the
number, or not at all if it does not fit. -/
theorem quantities_exact {n : Nat} {digits : List Char}
    (h : digits.map Char.toLower = Nat.toDigits 16 n) (zeros : Nat) :
    let s := String.ofList ('0' :: 'x' :: (List.replicate zeros '0' ++ digits))
    (n < 2 ^ 64 → ∃ w v, quantityWord s = .ok w ∧ quantityWei s = .ok v ∧ w.toNat = n ∧ v.toNat = n) ∧
    (2 ^ 64 ≤ n → quantityWord s = .error (notAQuantity s)) ∧
    (n < 2 ^ 256 → ∃ v, quantityWei s = .ok v ∧ v.toNat = n) ∧
    (2 ^ 256 ≤ n → quantityWei s = .error (notAQuantity s)) ∧
    (notAQuantity s).code = .rpcInvalidResponse ∧
    (∀ w, quantityWord s = .ok w → w.toNat = n) ∧ ∀ v, quantityWei s = .ok v → v.toNat = n := by
  intro s
  have hne : digits ≠ [] := by
    rintro rfl
    exact Nat.toDigits_ne_nil h.symm
  have hs : SpellsQuantity n s :=
    ⟨_, List.append_ne_nil_of_right_ne_nil _ hne, String.toList_ofList,
      (denotes_of_toLower (by decide) h).zeros (by decide) zeros⟩
  have hwei : n < 2 ^ 256 → ∃ v, quantityWei s = .ok v ∧ v.toNat = n := fun hn =>
    ⟨⟨n, hn⟩, hs.quantityWei_iff.mpr rfl, rfl⟩
  refine ⟨fun hn => ?_, fun hn => ?_, hwei, fun hn => ?_, rfl, fun w => hs.quantityWord_iff.mp,
    fun v => hs.quantityWei_iff.mp⟩
  · obtain ⟨v, hv, hvn⟩ := hwei (by omega)
    have hw : (UInt64.ofNat n).toNat = n := UInt64.toNat_ofNat_of_lt' hn
    exact ⟨_, v, hs.quantityWord_iff.mpr hw, hv, hw, hvn⟩
  · refine (quantityWord_cases s).resolve_left fun ⟨w, hw⟩ => ?_
    have hlt := w.toNat_lt
    rw [hs.quantityWord_iff.mp hw] at hlt
    omega
  · refine (quantityWei_cases s).resolve_left fun ⟨v, hv⟩ => ?_
    have hlt : v.toNat < 2 ^ 256 := v.lt_limit
    rw [hs.quantityWei_iff.mp hv] at hlt
    omega

theorem quantities_exact_edge :
    "FFFFFFFFffffffff".toList.map Char.toLower = Nat.toDigits 16 (2 ^ 64 - 1) ∧
      quantityWord "0x000FFFFFFFFffffffff" = .ok (UInt64.ofNat (2 ^ 64 - 1)) ∧
      "10000000000000000".toList.map Char.toLower = Nat.toDigits 16 (2 ^ 64) ∧
      quantityWord "0x010000000000000000" = .error (notAQuantity "0x010000000000000000") ∧
      ∃ v, quantityWei "0x010000000000000000" = .ok v ∧ v.toNat = 2 ^ 64 := by
  have hbelow : "FFFFFFFFffffffff".toList.map Char.toLower = Nat.toDigits 16 (2 ^ 64 - 1) := by
    decide +kernel
  have habove : "10000000000000000".toList.map Char.toLower = Nat.toDigits 16 (2 ^ 64) := by
    decide +kernel
  obtain ⟨hfits, -, -, -, -, -, -⟩ := quantities_exact hbelow 3
  obtain ⟨-, herror, hwei, -, -, -, -⟩ := quantities_exact habove 1
  obtain ⟨w, _, hw, -, hvalue, -⟩ := hfits (by decide)
  have hmax : w = UInt64.ofNat (2 ^ 64 - 1) := UInt64.toNat_inj.mp hvalue
  exact ⟨hbelow, hmax ▸ hw, habove, herror (by decide), hwei (by decide)⟩

end MempoolGate.Rpc
