import Mathlib.Data.List.Basic
import MempoolGate.Chain.Network
import MempoolGate.Proofs.Text.Lowercase
import MempoolGate.Proofs.Text.Trimming

namespace MempoolGate

namespace Text

namespace CaseTable.Run

/-- The run has none of the numbers from `lo` to `hi` that lie `step` apart: it lies elsewhere, or it has
the odd ones where these are even, or the other way about. -/
def misses (lo hi step : Nat) (r : CaseTable.Run) : Bool :=
  Nat.blt hi r.first || Nat.blt r.last lo ||
    Nat.beq r.step 2 && (Nat.beq step 2 || Nat.beq lo hi) && Nat.beq ((lo + r.first) % 2) 1

theorem holds_of_misses {r : CaseTable.Run} {lo hi step n : Nat} (h : r.misses lo hi step = true)
    (hlo : lo ≤ n) (hhi : n ≤ hi) (hstep : (n - lo) % step = 0) : r.holds n = false := by
  simp only [misses, Bool.or_eq_true, Bool.and_eq_true, Nat.blt_eq, Nat.beq_eq] at h
  refine Bool.eq_false_iff.mpr fun hholds => ?_
  simp only [holds, Bool.and_eq_true, decide_eq_true_eq, beq_iff_eq] at hholds
  obtain ⟨⟨hfirst, hlast⟩, hplace⟩ := hholds
  rcases h with (hbelow | habove) | ⟨⟨htwo, hsame⟩, hodd⟩
  · omega
  · omega
  · rw [htwo] at hplace
    rcases hsame with rfl | rfl
    · omega
    · omega

def apart : List CaseTable.Run :=
  [⟨0x130, 0x130, 1, 0⟩, ⟨0x9, 0xD, 1, 0⟩, ⟨0x20, 0x20, 1, 0⟩, ⟨0x85, 0x85, 1, 0⟩,
   ⟨0xA0, 0xA0, 1, 0⟩, ⟨0x1680, 0x1680, 1, 0⟩, ⟨0x2000, 0x200A, 1, 0⟩, ⟨0x2028, 0x2029, 1, 0⟩,
   ⟨0x202F, 0x202F, 1, 0⟩, ⟨0x205F, 0x205F, 1, 0⟩, ⟨0x3000, 0x3000, 1, 0⟩]

theorem of_apart {c : Char} (h : ∀ r ∈ apart, r.holds c.toNat = false) :
    c ≠ 'İ' ∧ isBlank c = false := by
  simp only [apart, holds, List.forall_mem_cons, Nat.mod_one] at h
  simp only [beq_self_eq_true, Bool.and_true, Bool.and_eq_false_iff, decide_eq_false_iff_not] at h
  constructor
  · rintro rfl
    exact absurd h.1 (by decide)
  · simp only [isBlank, Bool.or_eq_false_iff, Bool.and_eq_false_iff, decide_eq_false_iff_not,
      beq_eq_false_iff_ne]
    omega

theorem misses_runs : ∀ r ∈ CaseTable.runs, (CaseTable.runs ++ apart).all
    (misses (r.first + r.shift).toNat (r.last + r.shift).toNat r.step) = true := by
  decide +kernel

end CaseTable.Run

def IsSmall (c : Char) : Prop :=
  lowerChar c = c ∧ c ≠ 'Σ' ∧ c ≠ 'İ'
deriving Decidable

theorem lowerChar_capitalSigma : lowerChar 'Σ' ≠ 'Σ' := by
  decide +kernel

/-- The lower case of a character leads no further, and it is white space only if the character is. -/
theorem lowerChar_spec (c : Char) :
    (c ≠ 'İ' → IsSmall (lowerChar c)) ∧ (isBlank c = false → isBlank (lowerChar c) = false) := by
  have hsmall : ∀ d, (∀ r ∈ CaseTable.runs, r.holds d.toNat = false) → d ≠ 'İ' → IsSmall d := by
    intro d hnone hdotted
    rcases lowerChar_cases d with ⟨hsame, -⟩ | ⟨r, hmem, hholds, -⟩
    · refine ⟨hsame, ?_, hdotted⟩
      rintro rfl
      exact lowerChar_capitalSigma hsame
    · rw [hnone r hmem] at hholds
      cases hholds
  rcases lowerChar_cases c with ⟨hsame, hnone⟩ | ⟨r, hmem, hholds, hlower⟩
  · rw [hsame]
    exact ⟨hsmall c hnone, id⟩
  · have hmisses := List.all_eq_true.mp (CaseTable.Run.misses_runs r hmem)
    have hnone : ∀ r' ∈ CaseTable.runs ++ CaseTable.Run.apart,
        r'.holds (lowerChar c).toNat = false := by
      intro r' hr'
      simp only [CaseTable.Run.holds, Bool.and_eq_true, decide_eq_true_eq, beq_iff_eq] at hholds
      obtain ⟨⟨hfirst, hlast⟩, hplace⟩ := hholds
      have hvalid := (runs_isValid r hmem).1
      refine CaseTable.Run.holds_of_misses (hmisses r' hr') (by omega) (by omega) ?_
      have hsame : (lowerChar c).toNat - (r.first + r.shift).toNat = c.toNat - r.first := by omega
      rw [hsame, hplace]
    rw [List.forall_mem_append] at hnone
    obtain ⟨hdotted, hblank⟩ := CaseTable.Run.of_apart hnone.2
    exact ⟨fun _ => hsmall _ hnone.1 hdotted, fun _ => hblank⟩

theorem isSmall_of_mem_lowerAfter {before cs : List Char} :
    ∀ c ∈ lowerAfter before cs, IsSmall c := by
  induction cs generalizing before with
  | nil => exact nofun
  | cons c rest ih =>
    rw [lowerAfter, List.forall_mem_append]
    refine ⟨?_, ih⟩
    split
    · rw [List.forall_mem_singleton]
      split <;> decide +kernel
    · split
      · rw [List.forall_mem_cons, List.forall_mem_singleton]
        decide +kernel
      · next hdotted =>
        rw [List.forall_mem_singleton]
        exact (lowerChar_spec c).1 hdotted

theorem lowerAfter_of_isSmall {cs : List Char} (h : ∀ c ∈ cs, IsSmall c) (before : List Char) :
    lowerAfter before cs = cs := by
  induction cs generalizing before with
  | nil => rfl
  | cons c rest ih =>
    rw [List.forall_mem_cons] at h
    obtain ⟨⟨hlower, hsigma, hdotted⟩, hrest⟩ := h
    rw [lowerAfter, if_neg hsigma, if_neg hdotted, hlower, ih hrest, List.singleton_append]

theorem lowercase_lowercase (s : String) : lowercase (lowercase s) = lowercase s := by
  unfold lowercase
  rw [String.toList_ofList, lowerAfter_of_isSmall isSmall_of_mem_lowerAfter]

theorem exists_lowerAfter_cons (before : List Char) (c : Char) (rest : List Char) :
    ∃ here, here ≠ [] ∧ lowerAfter before (c :: rest) = here ++ lowerAfter (c :: before) rest ∧
      (isBlank c = false → ∀ d ∈ here, isBlank d = false) := by
  rw [lowerAfter]
  refine ⟨_, ?_, rfl, ?_⟩
  · split
    · simp
    · split <;> simp
  · intro hc
    split
    · rw [List.forall_mem_singleton]
      split <;> decide
    · split
      · rw [List.forall_mem_cons, List.forall_mem_singleton]
        decide
      · rw [List.forall_mem_singleton]
        exact (lowerChar_spec c).2 hc

theorem head_lowerAfter {cs : List Char} (h : ∀ c ∈ cs.head?, isBlank c = false)
    (before : List Char) : ∀ c ∈ (lowerAfter before cs).head?, isBlank c = false := by
  cases cs with
  | nil => exact nofun
  | cons c rest =>
    obtain ⟨here, hne, hlower, hblank⟩ := exists_lowerAfter_cons before c rest
    obtain ⟨d, more, rfl⟩ := List.exists_cons_of_ne_nil hne
    rw [hlower]
    rintro _ ⟨⟩
    exact hblank (h c rfl) d List.mem_cons_self

theorem last_lowerAfter {cs : List Char} (h : ∀ c ∈ cs.getLast?, isBlank c = false)
    (before : List Char) : ∀ c ∈ (lowerAfter before cs).getLast?, isBlank c = false := by
  induction cs generalizing before with
  | nil => exact nofun
  | cons c rest ih =>
    obtain ⟨here, hne, hlower, hblank⟩ := exists_lowerAfter_cons before c rest
    rw [hlower]
    cases rest with
    | nil =>
      rw [lowerAfter, List.append_nil]
      exact fun d hd => hblank (h c rfl) d (List.mem_of_getLast? hd)
    | cons c' rest =>
      obtain ⟨here', hne', hlower', -⟩ := exists_lowerAfter_cons (c :: before) c' rest
      have hmore : lowerAfter (c :: before) (c' :: rest) ≠ [] := by
        rw [hlower']
        exact List.append_ne_nil_of_left_ne_nil hne' _
      rw [List.getLast?_append_of_ne_nil here hmore]
      rw [List.getLast?_cons_cons] at h
      exact ih h (c :: before)

theorem trim_lowercase_trim (s : String) : trim (lowercase (trim s)) = lowercase (trim s) := by
  have hstripped := isStripped_strip s.toList
  have hlower : IsStripped (lowerAfter [] (strip s.toList)) :=
    ⟨head_lowerAfter hstripped.head [], last_lowerAfter hstripped.last []⟩
  rw [lowercase, toList_trim, trim, String.toList_ofList, hlower.strip_eq]

end Text

theorem foldName_foldName (s : String) : foldName (foldName s) = foldName s := by
  simp only [foldName, Text.trim_lowercase_trim, Text.lowercase_lowercase]

end MempoolGate
