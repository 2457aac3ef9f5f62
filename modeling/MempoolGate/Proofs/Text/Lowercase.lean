import MempoolGate.Proofs.Number.Digits
import MempoolGate.Proofs.Text.Find
import MempoolGate.Text.Lowercase

namespace MempoolGate.Text

namespace CaseTable.Run

def holds (r : CaseTable.Run) (n : Nat) : Bool :=
  r.first ≤ n && n ≤ r.last && (n - r.first) % r.step == 0

def IsValid (r : CaseTable.Run) : Prop :=
  0 ≤ r.first + r.shift ∧
    (r.last + r.shift < 0xD800 ∨ 0xDFFF < r.first + r.shift ∧ r.last + r.shift < 0x110000)
deriving Decidable

def IsHigh (r : CaseTable.Run) : Prop :=
  128 ≤ r.first + r.shift ∧
    (r.last + r.shift < 0xD800 ∨ 0xDFFF < r.first + r.shift ∧ r.last + r.shift < 0x110000)
deriving Decidable

end CaseTable.Run

theorem runs_isValid : ∀ r ∈ CaseTable.runs, r.IsValid := by
  decide +kernel

theorem runs_isHigh : ∀ r ∈ CaseTable.runs,
    r.last < 128 ∨ r.first = 0x212A ∧ r.last = 0x212A ∧ r.shift = -8383 ∨ r.IsHigh := by
  decide +kernel

theorem lowerChar_cases (c : Char) :
    (lowerChar c = c ∧ ∀ r ∈ CaseTable.runs, r.holds c.toNat = false) ∨
      ∃ r ∈ CaseTable.runs, r.holds c.toNat = true ∧
        ((lowerChar c).toNat : Int) = c.toNat + r.shift := by
  unfold lowerChar
  dsimp only
  split
  · next r hfind =>
    have hmem := List.mem_of_find?_eq_some hfind
    have hwithin := List.find?_some hfind
    have hholds : r.holds c.toNat = true := hwithin
    simp only [Bool.and_eq_true, decide_eq_true_eq] at hwithin
    obtain ⟨⟨hfirst, hlast⟩, -⟩ := hwithin
    obtain ⟨hzero, hvalid⟩ := runs_isValid r hmem
    have hchar : (c.toNat + r.shift).toNat.isValidChar := by
      unfold Nat.isValidChar
      omega
    have htoNat : (Char.ofNat (c.toNat + r.shift).toNat).toNat = (c.toNat + r.shift).toNat := by
      rw [Char.ofNat, dif_pos hchar]
      rfl
    exact .inr ⟨r, hmem, hholds, by omega⟩
  · next hfind =>
    refine .inl ⟨rfl, fun r hmem => Bool.eq_false_iff.mpr fun hholds => ?_⟩
    exact List.find?_eq_none.mp hfind r hmem hholds

theorem le_toNat_lowerChar {c : Char} (h : 128 ≤ c.toNat) :
    lowerChar c = 'k' ∨ 128 ≤ (lowerChar c).toNat := by
  rcases lowerChar_cases c with ⟨hsame, -⟩ | ⟨r, hmem, hholds, hlower⟩
  · rw [hsame]
    exact .inr h
  · simp only [CaseTable.Run.holds, Bool.and_eq_true, decide_eq_true_eq] at hholds
    obtain ⟨⟨hfirst, hlast⟩, -⟩ := hholds
    rcases runs_isHigh r hmem with hlow | ⟨hkelvin, hkelvin', hshift⟩ | ⟨hbound, -⟩
    · omega
    · have hk : (lowerChar c).toNat = 'k'.toNat := by
        change (lowerChar c).toNat = 107
        omega
      exact .inl (Char.toNat_inj.mp hk)
    · exact .inr (by omega)

theorem asciiLower_of_le {c : Char} (h : 128 ≤ c.toNat) : asciiLower c = c := by
  have hz : ¬c ≤ 'Z' := not_le_of_le_toNat h 'Z' (by decide)
  exact if_neg fun hcapital => hz hcapital.2

theorem lowerChar_of_lt : ∀ n < 128, lowerChar (Char.ofNat n) = asciiLower (Char.ofNat n) := by
  decide +kernel

/-- A letter that no other than its capital leads to. -/
def IsPlain (c : Char) : Prop :=
  c.toNat < 128 ∧ c ≠ 'k'
deriving Decidable

theorem lowerChar_eq_iff {c : Char} (hc : IsPlain c) (d : Char) :
    lowerChar d = c ↔ asciiLower d = c := by
  obtain ⟨hlow, hk⟩ := hc
  refine forall_char (P := fun d => lowerChar d = c ↔ asciiLower d = c) ?_ ?_ d
  · intro n hn
    rw [lowerChar_of_lt n hn]
  · intro d hd
    have hupper : lowerChar d ≠ c := by
      rintro rfl
      rcases le_toNat_lowerChar hd with h | h
      · exact hk h
      · omega
    have hsame : asciiLower d ≠ c := by
      rw [asciiLower_of_le hd]
      rintro rfl
      omega
    exact iff_of_false hupper hsame

/-- Letters in a row that only they and their capitals lead to. The last one is no `i`, which the dotted
capital could give. -/
structure IsWord (word : List Char) : Prop where
  plain : ∀ c ∈ word, IsPlain c
  last : word.getLast? ≠ some 'i'

namespace IsWord

variable {word : List Char} {c : Char}

theorem tail (h : IsWord (c :: word)) : IsWord word := by
  refine ⟨fun d hd => h.plain d (List.mem_cons_of_mem c hd), ?_⟩
  cases word with
  | nil => simp
  | cons d word =>
    rw [← List.getLast?_cons_cons]
    exact h.last

theorem not_prefix_of_le (h : IsWord (c :: word)) {d : Char} (hd : 128 ≤ d.toNat) (cs : List Char) :
    ¬c :: word <+: d :: cs := by
  intro hprefix
  obtain ⟨rfl, -⟩ := List.cons_prefix_cons.mp hprefix
  have hlow := (h.plain c List.mem_cons_self).1
  omega

/-- What the dotted capital leaves behind holds no word. -/
theorem not_prefix_of_dotted (h : IsWord (c :: word)) (cs : List Char) :
    ¬c :: word <+: 'i' :: '\u0307' :: cs := by
  intro hprefix
  obtain ⟨rfl, hrest⟩ := List.cons_prefix_cons.mp hprefix
  cases word with
  | nil => exact h.last rfl
  | cons d word => exact h.tail.not_prefix_of_le (by decide) cs hrest

theorem prefix_lowerAfter_iff (h : IsWord word) (before cs : List Char) :
    word <+: lowerAfter before cs ↔ word <+: cs.map asciiLower := by
  induction word generalizing before cs with
  | nil => simp
  | cons c word ih =>
    cases cs with
    | nil => rfl
    | cons d rest =>
      rw [lowerAfter, List.map_cons]
      by_cases hsigma : d = 'Σ'
      · subst d
        rw [if_pos rfl]
        -- either sigma lies above the letters of a word
        refine iff_of_false (h.not_prefix_of_le ?_ _) (h.not_prefix_of_le (by decide) _)
        split <;> decide
      · rw [if_neg hsigma]
        by_cases hdotted : d = 'İ'
        · subst d
          exact iff_of_false (h.not_prefix_of_dotted _) (h.not_prefix_of_le (by decide) _)
        · rw [if_neg hdotted, List.singleton_append, List.cons_prefix_cons, List.cons_prefix_cons,
            ih h.tail, eq_comm, lowerChar_eq_iff (h.plain c List.mem_cons_self), eq_comm]

theorem infix_lowerAfter_iff (h : IsWord word) (before cs : List Char) :
    word <:+: lowerAfter before cs ↔ word <:+: cs.map asciiLower := by
  induction cs generalizing before with
  | nil => rfl
  | cons d rest ih =>
    have hprefix := h.prefix_lowerAfter_iff before (d :: rest)
    rw [List.map_cons, List.infix_cons_iff, ← List.map_cons, ← hprefix, ← ih (d :: before)]
    rw [lowerAfter]
    split
    · exact List.infix_cons_iff
    · split
      · -- a word that stands behind the `i` would begin with its dot
        rw [List.cons_append, List.infix_cons_iff, List.singleton_append, List.infix_cons_iff]
        refine or_congr_right (or_iff_right_of_imp fun hdot => ?_)
        cases word with
        | nil => exact List.nil_infix
        | cons c word => exact absurd hdot (h.not_prefix_of_le (by decide) _)
      · exact List.infix_cons_iff

end IsWord

/-- A word stands in the lower case of a text where the text spells it in letters of either case. -/
theorem contains_lowercase_iff {word : String} (h : IsWord word.toList) (s : String) :
    contains (lowercase s) word = true ↔
      ∃ part, part <:+: s.toList ∧ part.map asciiLower = word.toList := by
  rw [contains_iff, lowercase, String.toList_ofList, h.infix_lowerAfter_iff, List.infix_map_iff]
  simp only [eq_comm]

end MempoolGate.Text
