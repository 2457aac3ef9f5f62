import Mathlib.Data.List.Infix
import MempoolGate.Text.Find

namespace MempoolGate.Text

variable {mark cs base : List Char}

theorem isSome_beforeFirst? (mark cs : List Char) :
    (beforeFirst? mark cs).isSome = true ↔ mark <:+: cs := by
  induction cs with
  | nil =>
    rw [beforeFirst?, List.infix_nil]
    by_cases h : mark = [] <;> simp [h]
  | cons c rest ih =>
    rw [beforeFirst?, List.infix_cons_iff, ← ih, ← List.isPrefixOf_iff_prefix]
    by_cases h : mark.isPrefixOf (c :: rest) = true <;> simp [h]

theorem beforeFirst?_eq_none_iff (mark cs : List Char) :
    beforeFirst? mark cs = none ↔ ¬mark <:+: cs := by
  rw [← isSome_beforeFirst?, Bool.not_eq_true, Option.isSome_eq_false_iff, Option.isNone_iff_eq_none]

theorem contains_iff (s mark : String) : contains s mark = true ↔ mark.toList <:+: s.toList :=
  isSome_beforeFirst? _ _

/-- The mark stands there, and none ends sooner. -/
theorem beforeFirst?_eq_some_iff (hmark : mark ≠ []) :
    beforeFirst? mark cs = some base ↔
      base ++ mark <+: cs ∧ ¬mark <:+: (base ++ mark).dropLast := by
  have hdrop (c : Char) (base : List Char) :
      (c :: base ++ mark).dropLast = c :: (base ++ mark).dropLast :=
    List.dropLast_cons_of_ne_nil (List.append_ne_nil_of_right_ne_nil base hmark)
  induction cs generalizing base with
  | nil =>
    rw [beforeFirst?, if_neg hmark, List.prefix_nil, List.append_eq_nil_iff]
    exact iff_of_false (nofun) fun h => hmark h.1.2
  | cons c rest ih =>
    rw [beforeFirst?]
    by_cases hhere : mark.isPrefixOf (c :: rest) = true
    · rw [if_pos hhere]
      rw [List.isPrefixOf_iff_prefix] at hhere
      cases base with
      | nil =>
        refine iff_of_true rfl ⟨hhere, fun h => ?_⟩
        have hle := h.length_le
        have hpos := List.length_pos_iff.mpr hmark
        rw [List.nil_append, List.length_dropLast] at hle
        omega
      | cons d base =>
        -- the mark at the head ends before a later one does
        refine iff_of_false (nofun) fun ⟨hlater, hnone⟩ => hnone ?_
        refine (List.prefix_of_prefix_length_le hhere
          ((List.dropLast_prefix _).trans hlater) ?_).isInfix
        rw [hdrop, List.length_cons, List.length_dropLast, List.length_append]
        omega
    · rw [if_neg hhere]
      rw [List.isPrefixOf_iff_prefix] at hhere
      cases base with
      | nil =>
        exact iff_of_false (by simp) fun h => hhere h.1
      | cons d base =>
        rw [hdrop, List.cons_append, List.cons_prefix_cons, List.infix_cons_iff]
        constructor
        · intro h
          obtain ⟨found, hfound, heq⟩ := Option.map_eq_some_iff.mp h
          obtain ⟨rfl, rfl⟩ := List.cons_eq_cons.mp heq
          obtain ⟨hrest, hnone⟩ := ih.mp hfound
          refine ⟨⟨rfl, hrest⟩, not_or_intro (fun h => hhere (h.trans ?_)) hnone⟩
          exact List.cons_prefix_cons.mpr ⟨rfl, (List.dropLast_prefix _).trans hrest⟩
        · rintro ⟨⟨rfl, hrest⟩, hnone⟩
          rw [ih.mpr ⟨hrest, fun h => hnone (.inr h)⟩]
          rfl

/-- In front of a text in which no mark begins, it is the same mark that comes first. -/
theorem beforeFirst?_append (before : List Char)
    (h : ∀ s, s ≠ [] → s <:+ before → ¬mark <+: s ++ cs) :
    beforeFirst? mark (before ++ cs) = (beforeFirst? mark cs).map (before ++ ·) := by
  induction before with
  | nil => exact Option.map_id.symm ▸ rfl
  | cons c before ih =>
    have hhere : ¬mark.isPrefixOf (c :: (before ++ cs)) = true := by
      rw [List.isPrefixOf_iff_prefix]
      exact h (c :: before) (nofun) List.suffix_rfl
    have hrest := ih fun s hs hsuffix => h s hs (hsuffix.trans (List.suffix_cons c before))
    rw [List.cons_append, beforeFirst?, if_neg hhere, hrest, Option.map_map]
    rfl

end MempoolGate.Text
