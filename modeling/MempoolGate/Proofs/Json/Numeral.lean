import MempoolGate.Json.Numeral
import MempoolGate.Json.Writer

namespace MempoolGate.Json

/-- What may stand behind a value of an object or an array. -/
inductive Ends : List Char → Prop
  | nil : Ends []
  | comma (rest : List Char) : Ends (',' :: rest)
  | bracket (rest : List Char) : Ends (']' :: rest)
  | brace (rest : List Char) : Ends ('\x7d' :: rest)

structure DigitsOf (n : Nat) (ds : List Nat) : Prop where
  text : Nat.toDigits 10 n = ds.map Nat.digitChar
  lt : ∀ d ∈ ds, d < 10
  value : digitsValue ds = n
  leading : ds = [0] ∨ ∃ d rest, ds = d :: rest ∧ d ≠ 0

theorem exists_digitsOf (n : Nat) : ∃ ds, DigitsOf n ds := by
  induction n using Nat.strongRecOn with
  | ind n ih =>
    by_cases hn : n < 10
    · refine ⟨[n], Nat.toDigits_of_lt_base hn, by simpa using hn, ?_, ?_⟩
      · exact Nat.zero_add n
      · by_cases h0 : n = 0
        · exact .inl (congrArg (fun d => [d]) h0)
        · exact .inr ⟨n, [], rfl, h0⟩
    · obtain ⟨ds, hds⟩ := ih (n / 10) (by omega)
      refine ⟨ds ++ [n % 10], ?_, ?_, ?_, ?_⟩
      · rw [Nat.toDigits_of_base_le (by decide) (Nat.le_of_not_lt hn), hds.text, List.map_append]
        rfl
      · rw [List.forall_mem_append, List.forall_mem_singleton]
        exact ⟨hds.lt, Nat.mod_lt n (by decide)⟩
      · have hvalue := hds.value
        unfold digitsValue at hvalue ⊢
        rw [List.foldl_append, hvalue]
        exact Nat.div_add_mod n 10
      · -- The digits of a tenth of `n` are not those of zero, so they do not begin with one.
        rcases hds.leading with rfl | ⟨d, rest, rfl, hd⟩
        · have hvalue : 0 = n / 10 := hds.value
          omega
        · exact .inr ⟨d, rest ++ [n % 10], rfl, hd⟩

theorem decimalDigit?_digitChar : ∀ d < 10, Text.decimalDigit? (Nat.digitChar d) = some d := by
  decide

theorem takeDigits_of_ends {rest : List Char} (h : Ends rest) : takeDigits rest = ([], rest) := by
  cases h <;> rfl

theorem takeDigits_written {ds : List Nat} (hds : ∀ d ∈ ds, d < 10) {rest : List Char}
    (h : Ends rest) : takeDigits (ds.map Nat.digitChar ++ rest) = (ds, rest) := by
  induction ds with
  | nil => exact takeDigits_of_ends h
  | cons d ds ih =>
    rw [List.forall_mem_cons] at hds
    rw [List.map_cons, List.cons_append, takeDigits, decimalDigit?_digitChar d hds.1]
    simp only [ih hds.2]

theorem le_foldl_digits (ds : List Nat) (m : Nat) : m ≤ ds.foldl (fun n d => 10 * n + d) m := by
  induction ds generalizing m with
  | nil => exact Nat.le_refl m
  | cons d ds ih =>
    have hle := ih (10 * m + d)
    rw [List.foldl_cons]
    omega

theorem fillWord_of_lt {ds : List Nat} {m : Nat}
    (h : ds.foldl (fun n d => 10 * n + d) m < UInt64.size) :
    fillWord m ds = (ds.foldl (fun n d => 10 * n + d) m, []) := by
  induction ds generalizing m with
  | nil => rfl
  | cons d ds ih =>
    rw [List.foldl_cons] at h ⊢
    have hle := le_foldl_digits ds (10 * m + d)
    rw [fillWord, if_pos (Nat.lt_of_le_of_lt hle h), ih h]

def numeralOf (n : Int) : Numeral :=
  ⟨decide (n < 0), (Nat.toDigits 10 n.natAbs).filterMap Text.decimalDigit?, none, none⟩

theorem DigitsOf.filterMap {n : Nat} {ds : List Nat} (h : DigitsOf n ds) :
    (Nat.toDigits 10 n).filterMap Text.decimalDigit? = ds := by
  have hlt := h.lt
  rw [h.text]
  clear h
  induction ds with
  | nil => rfl
  | cons d ds ih =>
    rw [List.forall_mem_cons] at hlt
    rw [List.map_cons, List.filterMap_cons_some (decimalDigit?_digitChar d hlt.1), ih hlt.2]

theorem takeWhole?_written (n : Nat) {rest : List Char} (h : Ends rest) :
    takeWhole? (Nat.toDigits 10 n ++ rest) =
      some ((Nat.toDigits 10 n).filterMap Text.decimalDigit?, rest) := by
  obtain ⟨ds, hds⟩ := exists_digitsOf n
  rw [hds.filterMap, hds.text, takeWhole?, takeDigits_written hds.lt h]
  rcases hds.leading with rfl | ⟨d, rest, rfl, hd⟩
  · rfl
  · cases d with
    | zero => exact absurd rfl hd
    | succ d => rfl

theorem toDigits_eq_cons (n : Nat) :
    ∃ d cs, d < 10 ∧ Nat.toDigits 10 n = Nat.digitChar d :: cs := by
  obtain ⟨ds, hds⟩ := exists_digitsOf n
  rw [hds.text]
  rcases hds.leading with rfl | ⟨d, rest, rfl, -⟩
  · exact ⟨0, [], by decide, rfl⟩
  · exact ⟨d, _, hds.lt d List.mem_cons_self, rfl⟩

theorem digitChar_ne_minus : ∀ d < 10, Nat.digitChar d ≠ '-' := by
  decide

theorem scanNumeral?_written (n : Int) {rest : List Char} (h : Ends rest) :
    scanNumeral? (writeInt n ++ rest) = some (numeralOf n, rest) := by
  have htail : (takeFraction? rest = some (none, rest)) ∧ takeExponent? rest = some (none, rest) := by
    cases h <;> exact ⟨rfl, rfl⟩
  have hwhole := takeWhole?_written n.natAbs h
  unfold writeInt numeralOf
  by_cases hn : n < 0
  · rw [if_pos hn, List.cons_append]
    simp [scanNumeral?, hwhole, htail, hn]
  · obtain ⟨d, cs, hd, hdigits⟩ := toDigits_eq_cons n.natAbs
    have hminus := digitChar_ne_minus d hd
    rw [hdigits] at hwhole
    rw [if_neg hn, hdigits]
    rw [List.cons_append] at hwhole ⊢
    unfold scanNumeral?
    split
    next negative digits hsign =>
      split at hsign
      · next heq => exact absurd (List.cons.inj heq).1 hminus
      · cases hsign
        simp [hwhole, htail, hn]

/-- A numeral that was written for an integer of 64 bits, with or without a sign, denotes it. -/
theorem value?_numeralOf {n : Int} (hlow : -0x8000000000000000 ≤ n) (hhigh : n < UInt64.size) :
    (numeralOf n).value? = some (.whole n) := by
  obtain ⟨ds, hds⟩ := exists_digitsOf n.natAbs
  have hsize : UInt64.size = 0x10000000000000000 := rfl
  have hvalue := hds.value
  unfold digitsValue at hvalue
  have hfill : fillWord 0 ds = (n.natAbs, []) := by
    rw [fillWord_of_lt (by rw [hvalue]; omega), hvalue]
  simp only [Numeral.value?, numeralOf, hds.filterMap, hfill]
  by_cases hn : n < 0
  · have hpos : 0 < n.natAbs ∧ n.natAbs ≤ 0x8000000000000000 := by omega
    have habs : -(n.natAbs : Int) = n := by omega
    rw [if_pos ⟨trivial, trivial, trivial, .inr hpos⟩, if_pos (decide_eq_true hn), habs]
  · have hsign : (!decide (n < 0)) = true := by simp [hn]
    have habs : (n.natAbs : Int) = n := by omega
    rw [if_pos ⟨trivial, trivial, trivial, .inl hsign⟩, if_neg (by simp [hn]), habs]

theorem newline_notMem_writeInt (n : Int) : '\n' ∉ writeInt n := by
  have hdigits : '\n' ∉ Nat.toDigits 10 n.natAbs := by
    obtain ⟨ds, hds⟩ := exists_digitsOf n.natAbs
    rw [hds.text, List.mem_map]
    rintro ⟨d, hd, hnewline⟩
    have hread := decimalDigit?_digitChar d (hds.lt d hd)
    rw [hnewline] at hread
    cases hread
  unfold writeInt
  split
  · rw [List.mem_cons, not_or]
    exact ⟨by decide, hdigits⟩
  · exact hdigits

end MempoolGate.Json
