import Mathlib.Data.Nat.Digits.Defs
import MempoolGate.Number.Literal
import MempoolGate.Text.Decimal
import MempoolGate.Text.Hex

namespace MempoolGate.Text

/-- A row of digits stands for a number. -/
def Denotes (radix : Nat) (cs : List Char) (n : Nat) : Prop :=
  ∃ ds : List Nat, cs.map Char.toLower = ds.map Nat.digitChar ∧ (∀ d ∈ ds, d < radix) ∧
    Nat.ofDigits radix ds.reverse = n

def Reads (digit? : Char → Option Nat) (radix : Nat) : Prop :=
  ∀ c, ∀ d < radix, digit? c = some d ↔ c.toLower = Nat.digitChar d

/-- What holds of the characters up to a bound and of those above it holds of all. -/
theorem forall_char {P : Char → Prop} (hlow : ∀ n < 128, P (Char.ofNat n))
    (hhigh : ∀ c : Char, 128 ≤ c.toNat → P c) (c : Char) : P c := by
  by_cases h : c.toNat < 128
  · rw [← Char.ofNat_toNat c]
    exact hlow _ h
  · exact hhigh c (Nat.le_of_not_lt h)

theorem toLower_of_le {c : Char} (h : 128 ≤ c.toNat) : c.toLower = c := by
  have hupper : ¬(c.val ≥ 'A'.val ∧ c.val ≤ 'Z'.val) := by
    rintro ⟨-, hz⟩
    have hle : c.toNat ≤ 'Z'.toNat := UInt32.le_iff_toNat_le.mp hz
    exact absurd (Nat.le_trans h hle) (by decide)
  exact dif_neg hupper

theorem toNat_digitChar_lt : ∀ d < 16, (Nat.digitChar d).toNat < 128 := by
  decide

theorem toLower_digitChar : ∀ d < 16, (Nat.digitChar d).toLower = Nat.digitChar d := by
  decide

theorem toLower_ne_digitChar {c : Char} (h : 128 ≤ c.toNat) {d : Nat} (hd : d < 16) :
    c.toLower ≠ Nat.digitChar d := by
  rw [toLower_of_le h]
  intro hc
  have hlt := toNat_digitChar_lt d hd
  rw [← hc] at hlt
  omega

theorem not_le_of_le_toNat {c : Char} (h : 128 ≤ c.toNat) (bound : Char) (hb : bound.toNat < 128) :
    ¬c ≤ bound := by
  intro hle
  have hle' : c.toNat ≤ bound.toNat := UInt32.le_iff_toNat_le.mp hle
  omega

theorem reads_of_low {digit? : Char → Option Nat} {radix : Nat} (hradix : radix ≤ 16)
    (hlow : ∀ n < 128, ∀ d < radix,
      digit? (Char.ofNat n) = some d ↔ (Char.ofNat n).toLower = Nat.digitChar d)
    (hhigh : ∀ c : Char, 128 ≤ c.toNat → digit? c = none) : Reads digit? radix := by
  refine forall_char (P := fun c => ∀ d < radix, digit? c = some d ↔ c.toLower = Nat.digitChar d)
    hlow ?_
  intro c hc d hd
  rw [hhigh c hc]
  exact ⟨nofun, fun h => absurd h (toLower_ne_digitChar hc (hd.trans_le hradix))⟩

theorem reads_hexDigit? : Reads hexDigit? 16 := by
  apply reads_of_low (Nat.le_refl 16) (by decide +kernel)
  intro c hc
  have hbound := not_le_of_le_toNat hc
  rw [hexDigit?, if_neg fun h => hbound '9' (by decide) h.2,
    if_neg fun h => hbound 'f' (by decide) h.2, if_neg fun h => hbound 'F' (by decide) h.2]

theorem reads_digit? {radix : Nat} (hradix : radix ≤ 16) : Reads Literal.digit? radix := by
  have hsixteen : Reads Literal.digit? 16 := by
    apply reads_of_low (Nat.le_refl 16) (by decide +kernel)
    intro c hc
    have hbound := not_le_of_le_toNat hc
    rw [Literal.digit?, if_neg fun h => hbound '9' (by decide) h.2,
      if_neg fun h => hbound 'z' (by decide) h.2, if_neg fun h => hbound 'Z' (by decide) h.2]
  exact fun c d hd => hsixteen c d (hd.trans_le hradix)

theorem reads_decimalDigit? : Reads decimalDigit? 10 := by
  apply reads_of_low (by decide) (by decide +kernel)
  intro c hc
  rw [decimalDigit?, if_neg fun h => not_le_of_le_toNat hc '9' (by decide) h.2]

variable {digit? : Char → Option Nat} {radix n : Nat} {cs : List Char}

theorem digitsFrom?_eq_some_iff_foldl (h : Reads digit? radix) (start : Nat) :
    digitsFrom? radix digit? start cs = some n ↔
      ∃ ds : List Nat, cs.map Char.toLower = ds.map Nat.digitChar ∧ (∀ d ∈ ds, d < radix) ∧
        ds.foldl (fun m d => radix * m + d) start = n := by
  induction cs generalizing start with
  | nil =>
    constructor
    · intro hs
      exact ⟨[], rfl, nofun, Option.some.inj hs⟩
    · rintro ⟨ds, hds, -, hn⟩
      obtain rfl := List.map_eq_nil_iff.mp hds.symm
      exact congrArg some hn
  | cons c cs ih =>
    rw [digitsFrom?]
    constructor
    · intro hs
      split at hs
      · next d hd =>
        split at hs
        · next hlt =>
          obtain ⟨ds, hds, hall, hn⟩ := (ih _).mp hs
          refine ⟨d :: ds, ?_, List.forall_mem_cons.mpr ⟨hlt, hall⟩, hn⟩
          rw [List.map_cons, List.map_cons, hds, (h c d hlt).mp hd]
        · cases hs
      · cases hs
    · rintro ⟨ds, hds, hall, hn⟩
      cases ds with
      | nil => cases hds
      | cons d ds =>
        rw [List.forall_mem_cons] at hall
        obtain ⟨hc, hcs⟩ := List.cons.inj hds
        rw [(h c d hall.1).mpr hc]
        dsimp only
        rw [if_pos hall.1]
        exact (ih _).mpr ⟨ds, hcs, hall.2, hn⟩

theorem ofDigits_reverse (radix : Nat) (ds : List Nat) :
    Nat.ofDigits radix ds.reverse = ds.foldl (fun m d => radix * m + d) 0 := by
  rw [Nat.ofDigits_eq_foldr, List.foldr_reverse]
  simp only [Nat.cast_id, Nat.add_comm]

theorem digitsFrom?_eq_some_iff (h : Reads digit? radix) :
    digitsFrom? radix digit? 0 cs = some n ↔ Denotes radix cs n := by
  rw [digitsFrom?_eq_some_iff_foldl h]
  simp only [Denotes, ofDigits_reverse]

theorem exists_toDigits (hone : 1 < radix) (n : Nat) :
    ∃ ds : List Nat, Nat.toDigits radix n = ds.map Nat.digitChar ∧ (∀ d ∈ ds, d < radix) ∧
      Nat.ofDigits radix ds.reverse = n := by
  induction n using Nat.strongRecOn with
  | ind n ih =>
    by_cases hn : n < radix
    · refine ⟨[n], Nat.toDigits_of_lt_base hn, by simpa using hn, ?_⟩
      rw [List.reverse_singleton, Nat.ofDigits_singleton]
    · have hle := Nat.le_of_not_lt hn
      obtain ⟨ds, hds, hall, hvalue⟩ := ih (n / radix) (Nat.div_lt_self (by omega) hone)
      refine ⟨ds ++ [n % radix], ?_, ?_, ?_⟩
      · rw [Nat.toDigits_of_base_le hone hle, hds, List.map_append]
        rfl
      · rw [List.forall_mem_append, List.forall_mem_singleton]
        exact ⟨hall, Nat.mod_lt n (by omega)⟩
      · rw [List.reverse_append, List.reverse_singleton, List.singleton_append, Nat.ofDigits_cons,
          hvalue]
        exact Nat.mod_add_div n radix

theorem denotes_of_toLower (hone : 1 < radix) (h : cs.map Char.toLower = Nat.toDigits radix n) :
    Denotes radix cs n := by
  obtain ⟨ds, hds, hall, hvalue⟩ := exists_toDigits hone n
  exact ⟨ds, h.trans hds, hall, hvalue⟩

theorem denotes_toDigits (n : Nat) : Denotes 10 (Nat.toDigits 10 n) n := by
  have hten : 1 < 10 := by decide
  obtain ⟨ds, hds, hall, -⟩ := exists_toDigits hten n
  apply denotes_of_toLower hten
  rw [hds, List.map_map]
  refine List.map_congr_left fun d hd => ?_
  have hlt := hall d hd
  exact toLower_digitChar d (by omega)

theorem Denotes.zeros (h : Denotes radix cs n) (hradix : 0 < radix) (count : Nat) :
    Denotes radix (List.replicate count '0' ++ cs) n := by
  obtain ⟨ds, hds, hall, hvalue⟩ := h
  refine ⟨List.replicate count 0 ++ ds, ?_, ?_, ?_⟩
  · rw [List.map_append, List.map_append, hds, List.map_replicate, List.map_replicate]
    rfl
  · rw [List.forall_mem_append]
    refine ⟨fun d hd => ?_, hall⟩
    rw [List.eq_of_mem_replicate hd]
    exact hradix
  · rw [List.reverse_append, List.reverse_replicate, Nat.ofDigits_append_replicate_zero, hvalue]

theorem toLower_mem_digits {c : Char} (h : Denotes radix cs n) (hc : c ∈ cs) :
    ∃ d < radix, c.toLower = Nat.digitChar d := by
  obtain ⟨ds, hds, hall, -⟩ := h
  have hmem : c.toLower ∈ ds.map Nat.digitChar := hds ▸ List.mem_map_of_mem hc
  obtain ⟨d, hd, hdc⟩ := List.mem_map.mp hmem
  exact ⟨d, hall d hd, hdc.symm⟩

theorem notMem_digits (hradix : radix ≤ 16) (h : Denotes radix cs n) : ∀ c ∈ ['_', '+'], c ∉ cs := by
  intro c hc hmem
  have hnone : ∀ d < 16, Nat.digitChar d ∉ ['_', '+'].map Char.toLower := by decide
  obtain ⟨d, hd, hlower⟩ := toLower_mem_digits h hmem
  exact hnone d (by omega) (hlower ▸ List.mem_map_of_mem hc)

theorem filter_underscores (h : '_' ∉ cs) : cs.filter (· ≠ '_') = cs :=
  List.filter_eq_self.mpr fun _ hc => decide_eq_true fun heq => h (heq ▸ hc)

theorem filter_digits (hradix : radix ≤ 16) (h : Denotes radix cs n) : cs.filter (· ≠ '_') = cs :=
  filter_underscores (notMem_digits hradix h '_' List.mem_cons_self)

theorem exists_denotes_iff :
    (∃ n, Denotes radix cs n) ↔ ∀ c ∈ cs, ∃ d < radix, c.toLower = Nat.digitChar d := by
  refine ⟨fun ⟨n, h⟩ c hc => toLower_mem_digits h hc, fun h => ?_⟩
  induction cs with
  | nil => exact ⟨_, [], rfl, nofun, rfl⟩
  | cons c cs ih =>
    rw [List.forall_mem_cons] at h
    obtain ⟨⟨d, hd, hc⟩, hrest⟩ := h
    obtain ⟨-, ds, hds, hall, -⟩ := ih hrest
    refine ⟨_, d :: ds, ?_, List.forall_mem_cons.mpr ⟨hd, hall⟩, rfl⟩
    rw [List.map_cons, List.map_cons, hc, hds]

end MempoolGate.Text
