import Mathlib.Data.List.TakeWhile
import Mathlib.Tactic.FieldSimp
import Mathlib.Tactic.NormNum
import Mathlib.Tactic.Ring
import MempoolGate.Chain.Wei
import MempoolGate.Feed.Event
import MempoolGate.Proofs.Json.Numeral
import MempoolGate.Proofs.Number.Digits

namespace MempoolGate

namespace Text

def naturalNumber? (cs : List Char) : Option Nat :=
  if cs = [] then none else digitsFrom? 10 decimalDigit? 0 cs

def decimalNumber? (s : String) : Option ℚ :=
  match s.toList.splitOn '.' with
  | [whole] => (naturalNumber? whole).map Nat.cast
  | [whole, fraction] => do
    let n ← naturalNumber? whole
    let m ← naturalNumber? fraction
    return n + m / 10 ^ fraction.length
  | _ => none

variable {digit? : Char → Option Nat} {radix : Nat}

theorem digitsFrom?_append (start : Nat) (cs rest : List Char) :
    digitsFrom? radix digit? start (cs ++ rest) =
      (digitsFrom? radix digit? start cs).bind fun n => digitsFrom? radix digit? n rest := by
  induction cs generalizing start with
  | nil => rfl
  | cons c cs ih =>
    rw [List.cons_append, digitsFrom?, digitsFrom?]
    split
    · split
      · exact ih _
      · rfl
    · rfl

theorem digitsFrom?_zeros (start count : Nat) :
    digitsFrom? 10 decimalDigit? start (List.replicate count '0') = some (start * 10 ^ count) := by
  induction count generalizing start with
  | zero => rw [List.replicate_zero, digitsFrom?, Nat.pow_zero, Nat.mul_one]
  | succ count ih =>
    have hzero : decimalDigit? '0' = some 0 := by decide
    rw [List.replicate_succ, digitsFrom?, hzero]
    dsimp only
    rw [if_pos (by decide), ih, Nat.add_zero, Nat.pow_succ]
    congr 1
    ring

theorem digitsFrom?_toDigits (n : Nat) :
    digitsFrom? 10 decimalDigit? 0 (Nat.toDigits 10 n) = some n :=
  (digitsFrom?_eq_some_iff reads_decimalDigit?).mpr (denotes_toDigits n)

theorem naturalNumber?_toDigits (n : Nat) : naturalNumber? (Nat.toDigits 10 n) = some n := by
  rw [naturalNumber?, if_neg Nat.toDigits_ne_nil, digitsFrom?_toDigits]

theorem point_notMem {cs : List Char} {n : Nat} (h : naturalNumber? cs = some n) : '.' ∉ cs := by
  intro hpoint
  have hdigits : digitsFrom? 10 decimalDigit? 0 cs = some n := by
    unfold naturalNumber? at h
    split at h
    · cases h
    · exact h
  have hdenotes := (digitsFrom?_eq_some_iff reads_decimalDigit?).mp hdigits
  obtain ⟨d, hd, hlower⟩ := toLower_mem_digits hdenotes hpoint
  have hnot : ∀ d < 10, '.'.toLower ≠ Nat.digitChar d := by decide
  exact hnot d hd hlower

theorem decimalNumber?_of_whole {cs : List Char} {n : Nat} (h : naturalNumber? cs = some n) :
    decimalNumber? (String.ofList cs) = some (n : ℚ) := by
  rw [decimalNumber?, String.toList_ofList, List.splitOn_eq_singleton (point_notMem h)]
  simp only [h, Option.map_some]

theorem decimalNumber?_of_point {cs fraction : List Char} {n m : Nat}
    (hwhole : naturalNumber? cs = some n) (hfraction : naturalNumber? fraction = some m) :
    decimalNumber? (String.ofList (cs ++ '.' :: fraction)) =
      some ((n : ℚ) + m / 10 ^ fraction.length) := by
  rw [decimalNumber?, String.toList_ofList,
    List.splitOn_append_cons_self_of_not_mem (point_notMem hwhole),
    List.splitOn_eq_singleton (point_notMem hfraction)]
  simp only [hwhole, hfraction, bind, Option.bind, pure]

structure IsWhole (cs : List Char) : Prop where
  nonempty : cs ≠ []
  digits : ∀ c ∈ cs, c.isDigit = true
  leading : cs.head? = some '0' → cs = ['0']

structure IsFraction (most : Nat) (cs : List Char) : Prop where
  nonempty : 1 ≤ cs.length
  atMost : cs.length ≤ most
  digits : ∀ c ∈ cs, c.isDigit = true
  last : cs.getLast? ≠ some '0'

/-- A whole number, which up to eighteen places behind a point may follow. -/
def IsCanonical (s : String) : Prop :=
  IsWhole s.toList ∨
    ∃ whole fraction, s.toList = whole ++ '.' :: fraction ∧ IsWhole whole ∧ IsFraction 18 fraction

theorem isWhole_toDigits (n : Nat) : IsWhole (Nat.toDigits 10 n) := by
  refine ⟨Nat.toDigits_ne_nil,
    fun c hc => Nat.isDigit_of_mem_toDigits (by decide) (by decide) hc, ?_⟩
  obtain ⟨ds, hds⟩ := Json.exists_digitsOf n
  rw [hds.text]
  rcases hds.leading with rfl | ⟨d, rest, rfl, hd⟩
  · exact fun _ => rfl
  · intro hzero
    have hne : ∀ d < 10, d ≠ 0 → Nat.digitChar d ≠ '0' := by decide
    exact absurd (Option.some.inj hzero) (hne d (hds.lt d List.mem_cons_self) hd)

end Text

open Text

/-- The places and the zeros left out are the eighteen places of the number. -/
theorem exists_fractionDigits {n : Nat} (h : n < weiPerNative) : ∃ zeros,
    (fractionDigits n).length + zeros = 18 ∧
      fractionDigits n ++ List.replicate zeros '0' =
        List.replicate (18 - (Nat.toDigits 10 n).length) '0' ++ Nat.toDigits 10 n := by
  let padded := List.replicate (18 - (Nat.toDigits 10 n).length) '0' ++ Nat.toDigits 10 n
  let zeros := padded.reverse.takeWhile (· == '0')
  have hzeros : zeros.reverse = List.replicate zeros.length '0' := by
    refine List.eq_replicate_iff.mpr ⟨List.length_reverse, fun c hc => ?_⟩
    exact eq_of_beq (List.mem_takeWhile_imp (p := (· == '0')) (List.mem_reverse.mp hc))
  have hjoin : fractionDigits n ++ List.replicate zeros.length '0' = padded := by
    rw [← hzeros]
    have hfraction : fractionDigits n = (padded.reverse.dropWhile (· == '0')).reverse := rfl
    rw [hfraction, ← List.reverse_append, List.takeWhile_append_dropWhile, List.reverse_reverse]
  have hlength : (Nat.toDigits 10 n).length ≤ 18 := Nat.toDigits_length 10 n 18 (by decide) h
  refine ⟨zeros.length, ?_, hjoin⟩
  have hpadded := congrArg List.length hjoin
  rw [List.length_append, List.length_replicate] at hpadded
  rw [hpadded, List.length_append, List.length_replicate]
  omega

theorem naturalNumber?_fractionDigits {n : Nat} (h : n < weiPerNative) (hpos : n ≠ 0) :
    ∃ m zeros, naturalNumber? (fractionDigits n) = some m ∧ m * 10 ^ zeros = n ∧
      (fractionDigits n).length + zeros = 18 := by
  obtain ⟨zeros, hlength, hjoin⟩ := exists_fractionDigits h
  have hvalue : digitsFrom? 10 decimalDigit? 0 (fractionDigits n ++ List.replicate zeros '0') =
      some n := by
    rw [hjoin, digitsFrom?_append, digitsFrom?_zeros, Nat.zero_mul]
    exact digitsFrom?_toDigits n
  rw [digitsFrom?_append, Option.bind_eq_some_iff] at hvalue
  obtain ⟨m, hm, hn⟩ := hvalue
  rw [digitsFrom?_zeros] at hn
  have hmul := Option.some.inj hn
  refine ⟨m, zeros, ?_, hmul, hlength⟩
  -- all zeros would make the number zero
  have hne : fractionDigits n ≠ [] := by
    intro hnil
    rw [hnil] at hm
    cases hm
    rw [Nat.zero_mul] at hmul
    exact hpos hmul.symm
  rw [naturalNumber?, if_neg hne, hm]

theorem isFraction_fractionDigits {n : Nat} (h : n < weiPerNative) (hpos : n ≠ 0) :
    IsFraction 18 (fractionDigits n) := by
  obtain ⟨zeros, hlength, hjoin⟩ := exists_fractionDigits h
  obtain ⟨m, -, hm, -, -⟩ := naturalNumber?_fractionDigits h hpos
  refine ⟨List.length_pos_iff.mpr ?_, by omega, fun c hc => ?_, ?_⟩
  · intro hnil
    rw [hnil] at hm
    cases hm
  · have hmem := List.mem_append_left (List.replicate zeros '0') hc
    rw [hjoin, List.mem_append] at hmem
    rcases hmem with hzero | hdigit
    · rw [List.eq_of_mem_replicate hzero]
      rfl
    · exact Nat.isDigit_of_mem_toDigits (by decide) (by decide) hdigit
  · rw [fractionDigits, List.getLast?_reverse]
    intro hlast
    have hnot := List.head?_dropWhile_not (· == '0')
      (List.replicate (18 - (Nat.toDigits 10 n).length) '0' ++ Nat.toDigits 10 n).reverse
    rw [hlast] at hnot
    cases hnot

/-- The whole units and a fraction of eighteen places make up the amount. -/
theorem native_add_fraction {n m places zeros : Nat} (hmul : m * 10 ^ zeros = n % weiPerNative)
    (hplaces : places + zeros = 18) :
    ((n / weiPerNative : Nat) : ℚ) + m / 10 ^ places = n / weiPerNative := by
  have hper : ((weiPerNative : Nat) : ℚ) = 10 ^ places * 10 ^ zeros := by
    rw [← pow_add, hplaces]
    norm_num [weiPerNative]
  have hrest : ((n % weiPerNative : Nat) : ℚ) = m * 10 ^ zeros := by
    rw [← hmul]
    push_cast
    rfl
  have hsplit : (n : ℚ) =
      weiPerNative * (n / weiPerNative : Nat) + (n % weiPerNative : Nat) := by
    exact_mod_cast (Nat.div_add_mod n weiPerNative).symm
  rw [hsplit, hrest, hper]
  field_simp

namespace Wei

theorem decimalNumber?_native (w : Wei) :
    decimalNumber? w.native = some ((w.toNat : ℚ) / weiPerNative) := by
  have hwhole := naturalNumber?_toDigits (w.toNat / weiPerNative)
  by_cases hrest : w.toNat % weiPerNative = 0
  · have hnone : 0 * 10 ^ 18 = w.toNat % weiPerNative := by rw [hrest, Nat.zero_mul]
    have hsum := native_add_fraction hnone (Nat.zero_add 18)
    rw [Nat.cast_zero, zero_div, add_zero] at hsum
    rw [native, if_pos hrest, decimalNumber?_of_whole hwhole, hsum]
  · have hlt : w.toNat % weiPerNative < weiPerNative := Nat.mod_lt _ (by decide)
    obtain ⟨m, zeros, hm, hmul, hplaces⟩ := naturalNumber?_fractionDigits hlt hrest
    rw [native, if_neg hrest, decimalNumber?_of_point hwhole hm, native_add_fraction hmul hplaces]

theorem isCanonical_native (w : Wei) : IsCanonical w.native := by
  have hwhole := isWhole_toDigits (w.toNat / weiPerNative)
  unfold native
  extract_lets whole rest
  split
  · rw [IsCanonical, String.toList_ofList]
    exact .inl hwhole
  · next hrest =>
    have hlt : rest < weiPerNative := Nat.mod_lt _ (by decide)
    rw [IsCanonical, String.toList_ofList]
    exact .inr ⟨whole, fractionDigits rest, rfl, hwhole, isFraction_fractionDigits hlt hrest⟩

theorem exists_native_mul (w : Wei) :
    ∃ q, decimalNumber? w.native = some q ∧ q * 10 ^ 18 = w.toNat := by
  refine ⟨_, w.decimalNumber?_native, ?_⟩
  have hper : (weiPerNative : ℚ) = 10 ^ 18 := by norm_num [weiPerNative]
  rw [hper]
  exact div_mul_cancel₀ _ (by norm_num)

theorem native_injective : Function.Injective native := by
  intro w v h
  obtain ⟨q, hq, hw⟩ := w.exists_native_mul
  obtain ⟨p, hp, hv⟩ := v.exists_native_mul
  rw [h, hp] at hq
  cases hq
  have hnat : w.toNat = v.toNat := by exact_mod_cast hw.symm.trans hv
  cases w
  cases v
  cases hnat
  rfl

/-- An amount has one text in native units, and the text is exact, also in the report on a transaction. -/
theorem native_exact :
    (∀ w : Wei, IsCanonical w.native ∧
      ∃ q, decimalNumber? w.native = some q ∧ q * 10 ^ 18 = w.toNat) ∧
    Function.Injective native ∧
    ∀ tx verdict network label timestamp,
      let report := TxReport.ofTx tx verdict network label timestamp
      naturalNumber? report.value.toList = some tx.value.toNat ∧
        ∃ q, decimalNumber? report.valueNative = some q ∧ q * 10 ^ 18 = tx.value.toNat := by
  refine ⟨fun w => ⟨w.isCanonical_native, w.exists_native_mul⟩, native_injective, ?_⟩
  intro tx verdict network label timestamp report
  refine ⟨?_, tx.value.exists_native_mul⟩
  have hvalue : report.value.toList = Nat.toDigits 10 tx.value.toNat := String.toList_ofList
  rw [hvalue, naturalNumber?_toDigits]

end Wei

end MempoolGate
