import MempoolGate.Table
import Mathlib.Algebra.GroupWithZero.Nat

namespace MempoolGate.Table

variable {κ α : Type} [DecidableEq κ]

@[simp] theorem get?_empty (k : κ) : ({} : Table κ α).get? k = none := rfl

theorem find?_putIn (k k' : κ) (a : α) (entries : List (κ × α)) :
    ((putIn k a entries).find? fun p => decide (p.1 = k')).map (·.2) =
      if k = k' then some a else (entries.find? fun p => decide (p.1 = k')).map (·.2) := by
  induction entries with
  | nil => by_cases h : k = k' <;> simp [putIn, h]
  | cons entry rest ih =>
    obtain ⟨x, b⟩ := entry
    by_cases hx : x = k
    · subst x
      by_cases h : k = k' <;> simp [putIn, h]
    · by_cases hx' : x = k'
      · subst x
        have hk : k ≠ k' := Ne.symm hx
        simp [putIn, hx, hk]
      · simpa [putIn, hx, hx'] using ih

theorem get?_put (t : Table κ α) (k k' : κ) (a : α) :
    (t.put k a).get? k' = if k = k' then some a else t.get? k' :=
  find?_putIn k k' a t.entries

@[simp] theorem get?_put_self (t : Table κ α) (k : κ) (a : α) : (t.put k a).get? k = some a := by
  rw [get?_put, if_pos rfl]

theorem get?_put_of_ne (t : Table κ α) {k k' : κ} (h : k ≠ k') (a : α) :
    (t.put k a).get? k' = t.get? k' := by
  rw [get?_put, if_neg h]

theorem putIn_putIn (k : κ) (a b : α) (entries : List (κ × α)) :
    putIn k b (putIn k a entries) = putIn k b entries := by
  induction entries with
  | nil => simp [putIn]
  | cons entry rest ih =>
    by_cases h : entry.1 = k <;> simp [putIn, h, ih]

theorem put_put (t : Table κ α) (k : κ) (a b : α) : (t.put k a).put k b = t.put k b :=
  congrArg Table.mk (putIn_putIn k a b t.entries)

theorem get?_modify (t : Table κ α) (k k' : κ) (f : α → α) :
    (t.modify k f).get? k' = if k = k' then (t.get? k').map f else t.get? k' := by
  by_cases h : k = k'
  · subst k'
    cases hg : t.get? k with
    | none => simp [modify, hg]
    | some a => simp [modify, hg]
  · rw [if_neg h]
    unfold modify
    cases t.get? k with
    | none => rfl
    | some a => exact get?_put_of_ne t h _

theorem get?_modify_of_ne (t : Table κ α) {k k' : κ} (h : k ≠ k') (f : α → α) :
    (t.modify k f).get? k' = t.get? k' := by
  rw [get?_modify, if_neg h]

theorem contains_iff (t : Table κ α) (k : κ) : t.contains k = true ↔ ∃ a, t.get? k = some a :=
  Option.isSome_iff_exists

theorem mem_values_of_get? {t : Table κ α} {k : κ} {a : α} (h : t.get? k = some a) : a ∈ t.values := by
  obtain ⟨entry, hentry, rfl⟩ := Option.map_eq_some_iff.mp h
  exact List.mem_map_of_mem (List.mem_of_find?_eq_some hentry)

def keys (t : Table κ α) : List κ :=
  t.entries.map (·.1)

omit [DecidableEq κ] in
theorem length_keys (t : Table κ α) : t.keys.length = t.size :=
  List.length_map _

theorem get?_eq_none_iff (t : Table κ α) (k : κ) : t.get? k = none ↔ k ∉ t.keys := by
  simp only [get?, keys, Option.map_eq_none_iff, List.find?_eq_none, decide_eq_true_eq,
    List.mem_map, not_exists, not_and]

theorem keys_putIn_of_notMem {k : κ} (a : α) {entries : List (κ × α)}
    (h : k ∉ entries.map (·.1)) : (putIn k a entries).map (·.1) = entries.map (·.1) ++ [k] := by
  induction entries with
  | nil => rfl
  | cons entry rest ih =>
    obtain ⟨x, b⟩ := entry
    rw [List.map_cons, List.mem_cons, not_or] at h
    rw [putIn, if_neg (Ne.symm h.1), List.map_cons, ih h.2]
    rfl

theorem keys_put_of_fresh {t : Table κ α} {k : κ} (h : t.get? k = none) (a : α) :
    (t.put k a).keys = t.keys ++ [k] :=
  keys_putIn_of_notMem a ((t.get?_eq_none_iff k).mp h)

theorem size_put_of_fresh {t : Table κ α} {k : κ} (h : t.get? k = none) (a : α) :
    (t.put k a).size = t.size + 1 := by
  rw [← length_keys, ← length_keys, keys_put_of_fresh h]
  exact List.length_append

theorem keys_putIn_of_mem {k : κ} (a : α) {entries : List (κ × α)}
    (h : k ∈ entries.map (·.1)) : (putIn k a entries).map (·.1) = entries.map (·.1) := by
  induction entries with
  | nil => cases h
  | cons entry rest ih =>
    obtain ⟨x, b⟩ := entry
    by_cases hx : x = k
    · rw [putIn, if_pos hx, List.map_cons, List.map_cons, hx]
    · have hrest : k ∈ rest.map (·.1) := (List.mem_cons.mp h).resolve_left (Ne.symm hx)
      rw [putIn, if_neg hx, List.map_cons, List.map_cons, ih hrest]

theorem keys_put_of_some {t : Table κ α} {k : κ} {b : α} (h : t.get? k = some b) (a : α) :
    (t.put k a).keys = t.keys := by
  refine keys_putIn_of_mem a (Classical.byContradiction fun hnot => ?_)
  cases h.symm.trans ((t.get?_eq_none_iff k).mpr hnot)

theorem size_put_of_some {t : Table κ α} {k : κ} {b : α} (h : t.get? k = some b) (a : α) :
    (t.put k a).size = t.size := by
  rw [← length_keys, ← length_keys, keys_put_of_some h]

theorem size_modify (t : Table κ α) (k : κ) (f : α → α) : (t.modify k f).size = t.size := by
  unfold modify
  cases h : t.get? k with
  | none => rfl
  | some a => exact size_put_of_some h (f a)

theorem nodup_keys_put {t : Table κ α} (h : t.keys.Nodup) (k : κ) (a : α) :
    (t.put k a).keys.Nodup := by
  cases hk : t.get? k with
  | some b =>
    rw [keys_put_of_some hk]
    exact h
  | none =>
    have hfresh : ∀ x ∈ t.keys, ∀ y ∈ [k], x ≠ y := by
      rintro x hx y hy rfl
      rw [List.mem_singleton] at hy
      exact (t.get?_eq_none_iff k).mp hk (hy ▸ hx)
    rw [keys_put_of_fresh hk]
    exact List.nodup_append.mpr ⟨h, List.pairwise_singleton _ _, hfresh⟩

theorem keys_erase (t : Table κ α) (k : κ) :
    (t.erase k).keys = t.keys.filter fun x => decide (x ≠ k) := by
  simp only [keys, erase, List.filter_map, Function.comp_def]

theorem sum_putIn (q : α → Nat) {k : κ} {a : α} (b : α) {entries : List (κ × α)}
    (h : (entries.find? fun p => decide (p.1 = k)).map (·.2) = some a) :
    ((putIn k b entries).map fun p => q p.2).sum + q a = (entries.map fun p => q p.2).sum + q b := by
  induction entries with
  | nil => cases h
  | cons entry rest ih =>
    obtain ⟨x, c⟩ := entry
    by_cases hx : x = k
    · subst x
      rw [List.find?_cons_of_pos (by simp), Option.map_some, Option.some.injEq] at h
      rw [putIn, if_pos rfl, List.map_cons, List.map_cons, List.sum_cons, List.sum_cons]
      dsimp only at h ⊢
      rw [h]
      omega
    · rw [List.find?_cons_of_neg (by simpa using hx)] at h
      have hrest := ih h
      rw [putIn, if_neg hx, List.map_cons, List.map_cons, List.sum_cons, List.sum_cons]
      omega

theorem sum_modify (q : α → Nat) {t : Table κ α} {k : κ} {a : α} (h : t.get? k = some a)
    (f : α → α) : ((t.modify k f).values.map q).sum + q a = (t.values.map q).sum + q (f a) := by
  have hput := sum_putIn q (f a) h
  simp only [modify, h, put, values, List.map_map, Function.comp_def]
  exact hput

end MempoolGate.Table
