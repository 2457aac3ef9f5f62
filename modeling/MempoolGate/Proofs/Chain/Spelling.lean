import MempoolGate.Chain.Bytes
import MempoolGate.Chain.Wei
import MempoolGate.Proofs.Number.Digits
import MempoolGate.Proofs.Text.Hex
import MempoolGate.Proofs.Text.Trimming

namespace MempoolGate

namespace Text

theorem hexDigit_eq_digitChar : ∀ d < 16, hexDigit d = Nat.digitChar d := by
  decide

theorem hexDigit?_lt {c : Char} {d : Nat} (h : hexDigit? c = some d) : d < 16 := by
  have hle : ∀ bound : Char, c ≤ bound → c.toNat ≤ bound.toNat :=
    fun bound hc => UInt32.le_iff_toNat_le.mp hc
  unfold hexDigit? at h
  split at h
  · next hc =>
    have hnine : c.toNat ≤ 57 := hle '9' hc.2
    cases h
    change c.toNat - 48 < 16
    omega
  split at h
  · next hc =>
    have hf : c.toNat ≤ 102 := hle 'f' hc.2
    cases h
    change c.toNat - 97 + 10 < 16
    omega
  split at h
  · next hc =>
    have hf : c.toNat ≤ 70 := hle 'F' hc.2
    cases h
    change c.toNat - 65 + 10 < 16
    omega
  · cases h

theorem hexDigit?_eq_some_iff {c : Char} {d : Nat} (hd : d < 16) :
    hexDigit? c = some d ↔ c.toLower = hexDigit d := by
  rw [hexDigit_eq_digitChar d hd]
  exact reads_hexDigit? c d hd

theorem hexEncode_cons (b : UInt8) (bytes : List UInt8) :
    hexEncode (b :: bytes) =
      hexDigit (b.toNat / 16) :: hexDigit (b.toNat % 16) :: hexEncode bytes :=
  rfl

theorem hexDecode?_eq_some_iff {cs : List Char} {bytes : List UInt8} :
    hexDecode? cs = some bytes ↔ cs.map Char.toLower = hexEncode bytes := by
  constructor
  · intro h
    fun_induction hexDecode? cs generalizing bytes with
    | case1 =>
      cases h
      rfl
    | case2 => cases h
    | case3 a b rest high low hhigh hlow ih =>
      obtain ⟨tail, htail, rfl⟩ := Option.map_eq_some_iff.mp h
      have hhighlt := hexDigit?_lt hhigh
      have hlowlt := hexDigit?_lt hlow
      have hsize : UInt8.size = 256 := rfl
      have hvalue : (UInt8.ofNat (16 * high + low)).toNat = 16 * high + low :=
        UInt8.toNat_ofNat_of_lt' (by omega)
      have hdiv : (16 * high + low) / 16 = high := by omega
      have hmod : (16 * high + low) % 16 = low := by omega
      rw [hexEncode_cons, hvalue, hdiv, hmod, List.map_cons, List.map_cons, ih htail,
        (hexDigit?_eq_some_iff hhighlt).mp hhigh, (hexDigit?_eq_some_iff hlowlt).mp hlow]
    | case4 => cases h
  · intro h
    induction bytes generalizing cs with
    | nil =>
      rw [List.map_eq_nil_iff.mp h]
      rfl
    | cons byte bytes ih =>
      have hlt : byte.toNat < 256 := byte.toNat_lt_size
      rw [hexEncode_cons] at h
      obtain ⟨a, cs, rfl, ha, h⟩ := List.map_eq_cons_iff.mp h
      obtain ⟨b, cs, rfl, hb, h⟩ := List.map_eq_cons_iff.mp h
      have hhigh := (hexDigit?_eq_some_iff (by omega)).mpr ha
      have hlow := (hexDigit?_eq_some_iff (by omega)).mpr hb
      have hbyte : UInt8.ofNat (16 * (byte.toNat / 16) + byte.toNat % 16) = byte := by
        rw [Nat.div_add_mod, UInt8.ofNat_toNat]
      rw [hexDecode?, hhigh, hlow]
      simp only [ih h, Option.map_some, hbyte]

/-- The characters are the bytes in digits of either case, behind a marker or not. -/
def SpellsBytes (bytes : List UInt8) (cs : List Char) : Prop :=
  ∃ marker ∈ [[], ['0', 'x'], ['0', 'X']], ∃ digits, cs = marker ++ digits ∧
    digits.map Char.toLower = hexEncode bytes

theorem dropHexMarker_digits {digits : List Char} {bytes : List UInt8}
    (h : digits.map Char.toLower = hexEncode bytes) : dropHexMarker digits = digits := by
  have hdecode := hexDecode?_eq_some_iff.mpr h
  unfold dropHexMarker
  split
  · cases hdecode
  · cases hdecode
  · rfl

theorem exists_marker (cs : List Char) :
    ∃ marker ∈ [[], ['0', 'x'], ['0', 'X']], cs = marker ++ dropHexMarker cs := by
  unfold dropHexMarker
  split
  · exact ⟨['0', 'x'], by simp, rfl⟩
  · exact ⟨['0', 'X'], by simp, rfl⟩
  · exact ⟨[], by simp, rfl⟩

theorem hexBytes?_eq_some_iff {s : String} {bytes : List UInt8} :
    hexBytes? s = some bytes ↔ SpellsBytes bytes s.toList := by
  rw [hexBytes?, hexDecode?_eq_some_iff]
  constructor
  · intro h
    obtain ⟨marker, hmarker, hs⟩ := exists_marker s.toList
    exact ⟨marker, hmarker, _, hs, h⟩
  · rintro ⟨marker, hmarker, digits, hs, h⟩
    rw [hs]
    simp only [List.mem_cons, List.not_mem_nil, or_false] at hmarker
    rcases hmarker with rfl | rfl | rfl
    · rw [List.nil_append, dropHexMarker_digits h]
      exact h
    · exact h
    · exact h

theorem isBlank_of_toLower {c : Char} {d : Nat} (hd : d < 16) (h : c.toLower = Nat.digitChar d) :
    isBlank c = false :=
  forall_char (P := fun c => ∀ d < 16, c.toLower = Nat.digitChar d → isBlank c = false)
    (by decide +kernel) (fun _ hc _ hd h => absurd h (toLower_ne_digitChar hc hd)) c d hd h

theorem SpellsBytes.isBlank {bytes : List UInt8} {cs : List Char} (h : SpellsBytes bytes cs) :
    ∀ c ∈ cs, isBlank c = false := by
  obtain ⟨marker, hmarker, digits, rfl, hdigits⟩ := h
  have hmarkers : ∀ marker ∈ [[], ['0', 'x'], ['0', 'X']], marker.any Text.isBlank = false := by
    decide
  intro c hc
  rcases List.mem_append.mp hc with hc | hc
  · exact Bool.eq_false_iff.mpr (List.any_eq_false.mp (hmarkers marker hmarker) c hc)
  · have hmem : c.toLower ∈ hexEncode bytes := hdigits ▸ List.mem_map_of_mem hc
    obtain ⟨d, hd, hlower⟩ := exists_hexDigit hmem
    rw [hexDigit_eq_digitChar d hd] at hlower
    exact isBlank_of_toLower hd hlower

end Text

namespace Literal

def markers : List (List Char × Nat) :=
  [([], 10), (['0', 'x'], 16), (['0', 'X'], 16), (['0', 'o'], 8), (['0', 'O'], 8), (['0', 'b'], 2),
   (['0', 'B'], 2)]

/-- The characters are the digits of a number in the radix announced, with underscores among them. -/
def Spells (n : Nat) (cs : List Char) : Prop :=
  ∃ marker ∈ markers, ∃ digits, cs = marker.1 ++ digits ∧
    Text.Denotes marker.2 (digits.filter (· ≠ '_')) n

variable {n : Nat} {cs digits : List Char}

theorem radix_le : ∀ marker ∈ markers, marker.2 ≤ 16 := by
  decide

theorem exists_radixOf (cs : List Char) :
    ∃ marker ∈ markers, cs = marker.1 ++ (radixOf cs).2 ∧ (radixOf cs).1 = marker.2 := by
  unfold radixOf
  split
  · exact ⟨(['0', 'x'], 16), by simp [markers], rfl, rfl⟩
  · exact ⟨(['0', 'X'], 16), by simp [markers], rfl, rfl⟩
  · exact ⟨(['0', 'o'], 8), by simp [markers], rfl, rfl⟩
  · exact ⟨(['0', 'O'], 8), by simp [markers], rfl, rfl⟩
  · exact ⟨(['0', 'b'], 2), by simp [markers], rfl, rfl⟩
  · exact ⟨(['0', 'B'], 2), by simp [markers], rfl, rfl⟩
  · exact ⟨([], 10), by simp [markers], rfl, rfl⟩

theorem notMem_decimal (h : Text.Denotes 10 (cs.filter (· ≠ '_')) n) :
    ∀ c ∈ ['x', 'X', 'o', 'O', 'b', 'B'], c ∉ cs := by
  intro c hc hmem
  have hunder : '_' ∉ ['x', 'X', 'o', 'O', 'b', 'B'] := by decide
  have hdigit : ∀ d < 10, Nat.digitChar d ∉ ['x', 'X', 'o', 'O', 'b', 'B'].map Char.toLower := by
    decide
  have hne : c ≠ '_' := fun he => hunder (he ▸ hc)
  obtain ⟨d, hd, hlower⟩ :=
    Text.toLower_mem_digits h (List.mem_filter.mpr ⟨hmem, decide_eq_true hne⟩)
  exact hdigit d hd (hlower ▸ List.mem_map_of_mem hc)

theorem radixOf_append {marker : List Char × Nat} (hmarker : marker ∈ markers)
    (h : Text.Denotes marker.2 (digits.filter (· ≠ '_')) n) :
    radixOf (marker.1 ++ digits) = (marker.2, digits) := by
  simp only [markers, List.mem_cons, List.not_mem_nil, or_false] at hmarker
  rcases hmarker with rfl | rfl | rfl | rfl | rfl | rfl | rfl
  · have hnot := notMem_decimal h
    rw [List.nil_append]
    unfold radixOf
    split
    · exact absurd (by simp) (hnot 'x' (by simp))
    · exact absurd (by simp) (hnot 'X' (by simp))
    · exact absurd (by simp) (hnot 'o' (by simp))
    · exact absurd (by simp) (hnot 'O' (by simp))
    · exact absurd (by simp) (hnot 'b' (by simp))
    · exact absurd (by simp) (hnot 'B' (by simp))
    · rfl
  all_goals rfl

theorem value?_eq_some_iff {s : String} : value? s = some n ↔ Spells n s.toList ∧ n < limit := by
  have hvalue : value? s = (Text.digitsFrom? (radixOf s.toList).1 digit? 0
      ((radixOf s.toList).2.filter (· ≠ '_'))).filter (· < limit) := rfl
  rw [hvalue, Option.filter_eq_some_iff, decide_eq_true_iff]
  refine and_congr_left fun _ => ?_
  constructor
  · intro h
    obtain ⟨marker, hmarker, hs, hradix⟩ := exists_radixOf s.toList
    have hle := radix_le marker hmarker
    rw [← hradix] at hle
    rw [Text.digitsFrom?_eq_some_iff (Text.reads_digit? hle), hradix] at h
    exact ⟨marker, hmarker, _, hs, h⟩
  · rintro ⟨marker, hmarker, digits, hs, h⟩
    rw [hs, radixOf_append hmarker h,
      Text.digitsFrom?_eq_some_iff (Text.reads_digit? (radix_le marker hmarker))]
    exact h

theorem Spells.isBlank (h : Spells n cs) : ∀ c ∈ cs, Text.isBlank c = false := by
  obtain ⟨marker, hmarker, digits, rfl, hdigits⟩ := h
  have hmarkers : ∀ marker ∈ markers, marker.1.any Text.isBlank = false := by decide
  intro c hc
  rcases List.mem_append.mp hc with hc | hc
  · exact Bool.eq_false_iff.mpr (List.any_eq_false.mp (hmarkers marker hmarker) c hc)
  · by_cases hunder : c = '_'
    · subst c
      decide
    · obtain ⟨d, hd, hlower⟩ := Text.toLower_mem_digits hdigits
        (List.mem_filter.mpr ⟨hc, decide_eq_true hunder⟩)
      have hle := radix_le marker hmarker
      exact Text.isBlank_of_toLower (by omega) hlower

end Literal

namespace Wei

theorem ofNat?_eq_some_iff {n : Nat} {w : Wei} : ofNat? n = some w ↔ n = w.toNat := by
  unfold ofNat?
  split
  · next h =>
    constructor
    · rintro ⟨⟩
      rfl
    · rintro rfl
      rfl
  · next h =>
    constructor
    · exact nofun
    · rintro rfl
      exact absurd w.lt_limit h

theorem parse?_eq_some_iff {s : String} {w : Wei} :
    parse? s = some w ↔ Literal.Spells w.toNat s.toList := by
  simp only [parse?, Option.bind_eq_some_iff, ofNat?_eq_some_iff, Literal.value?_eq_some_iff]
  constructor
  · rintro ⟨n, ⟨hspells, -⟩, rfl⟩
    exact hspells
  · intro hspells
    exact ⟨w.toNat, ⟨hspells, w.lt_limit⟩, rfl⟩

theorem parse?_decimal (w : Wei) : parse? w.decimal = some w := by
  have hdigits := Text.denotes_toDigits w.toNat
  have hfilter : (Nat.toDigits 10 w.toNat).filter (· ≠ '_') = Nat.toDigits 10 w.toNat := by
    refine List.filter_eq_self.mpr fun c hc => decide_eq_true ?_
    rintro rfl
    obtain ⟨d, hd, hlower⟩ := Text.toLower_mem_digits hdigits hc
    have hunder : ∀ d < 10, '_'.toLower ≠ Nat.digitChar d := by decide
    exact hunder d hd hlower
  rw [parse?_eq_some_iff, decimal, Text.decimal, String.toList_ofList]
  refine ⟨([], 10), by simp [Literal.markers], Nat.toDigits 10 w.toNat, rfl, ?_⟩
  rw [hfilter]
  exact hdigits

end Wei

end MempoolGate
