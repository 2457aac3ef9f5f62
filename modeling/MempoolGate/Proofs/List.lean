import Mathlib.Algebra.BigOperators.Group.List.Basic
import Mathlib.Algebra.GroupWithZero.Nat
import Mathlib.Data.List.Nodup
import Mathlib.Data.List.Perm.Basic
import Mathlib.Data.List.Range

namespace MempoolGate

variable {α β : Type}

theorem split_of_getElem? {l : List α} {k : Nat} {a : α} (h : l[k]? = some a) :
    ∃ before after, l = before ++ a :: after ∧ l.eraseIdx k = before ++ after ∧
      ∀ b, l.set k b = before ++ b :: after := by
  obtain ⟨hk, rfl⟩ := List.getElem?_eq_some_iff.mp h
  refine ⟨l.take k, l.drop (k + 1), ?_, List.eraseIdx_eq_take_drop_succ l k, fun b => ?_⟩
  · rw [← List.drop_eq_getElem_cons hk, List.take_append_drop]
  · rw [List.set_eq_take_append_cons_drop, if_pos hk]

/-- One entry among the others: what it is replaced by does not concern them. -/
theorem exists_rest {l : List α} {k : Nat} {a : α} (h : l[k]? = some a) :
    ∃ rest, l.Perm (a :: rest) ∧ ∀ b, (l.set k b).Perm (b :: rest) := by
  obtain ⟨hk, rfl⟩ := List.getElem?_eq_some_iff.mp h
  exact ⟨l.eraseIdx k, (List.getElem_cons_eraseIdx_perm hk).symm,
    fun b => List.set_perm_cons_eraseIdx hk b⟩

theorem filterMap_cons_toList (f : α → Option β) (a : α) (l : List α) :
    (a :: l).filterMap f = (f a).toList ++ l.filterMap f := by
  cases h : f a <;> simp [h]

theorem filter_ne_of_nodup [DecidableEq α] {before after : List α} {a : α}
    (h : (before ++ a :: after).Nodup) :
    (before ++ a :: after).filter (fun x => decide (x ≠ a)) = before ++ after := by
  have hnot := (List.nodup_cons.mp (List.nodup_middle.mp h)).1
  have hself : (before ++ after).filter (fun x => decide (x ≠ a)) = before ++ after := by
    refine List.filter_eq_self.mpr fun x hx => decide_eq_true ?_
    rintro rfl
    exact hnot hx
  rw [List.filter_append] at hself ⊢
  rw [List.filter_cons_of_neg (by simp)]
  exact hself

theorem eraseDups_concat_of_mem [BEq α] [LawfulBEq α] {l : List α} {a : α} (h : a ∈ l) :
    (l ++ [a]).eraseDups = l.eraseDups := by
  have hnone : [a].removeAll l = [] := by simp [List.removeAll, h]
  rw [List.eraseDups_append, hnone, List.eraseDups_nil, List.append_nil]

theorem eraseDups_concat_of_notMem [BEq α] [LawfulBEq α] {l : List α} {a : α} (h : a ∉ l) :
    (l ++ [a]).eraseDups = l.eraseDups ++ [a] := by
  have hone : [a].removeAll l = [a] := by simp [List.removeAll, h]
  rw [List.eraseDups_append, hone]
  rfl

theorem notMem_of_mem_splitOn [BEq α] [LawfulBEq α] {a : α} {l part : List α}
    (h : part ∈ l.splitOn a) : a ∉ part := by
  induction l generalizing part with
  | nil =>
    cases List.mem_singleton.mp h
    exact List.not_mem_nil
  | cons b l ih =>
    obtain ⟨first, rest, hsplit⟩ := List.exists_cons_of_ne_nil (List.splitOn_ne_nil a l)
    rw [hsplit] at ih
    rw [List.splitOn_cons_eq_if_modifyHead, hsplit, List.modifyHead_cons] at h
    split at h
    · rcases List.mem_cons.mp h with rfl | hmem
      · exact List.not_mem_nil
      · exact ih hmem
    · next hne =>
      rcases List.mem_cons.mp h with rfl | hmem
      · rintro (_ | ⟨_, hmem⟩)
        · exact hne BEq.rfl
        · exact ih List.mem_cons_self hmem
      · exact ih (List.mem_cons_of_mem _ hmem)

/-- As many entries of a list have a property as there are places at which they have it. -/
theorem length_filter_of_places {p : α → Bool} {l : List α} {places : List Nat}
    (hbound : ∀ i ∈ places, i < l.length) (hnodup : places.Nodup)
    (h : ∀ i a, l[i]? = some a → (p a = true ↔ i ∈ places)) :
    (l.filter p).length = places.length := by
  have hmap : l.map p = (List.range l.length).map fun i => decide (i ∈ places) := by
    refine List.ext_getElem (by simp) fun i hi _ => ?_
    have hi' : i < l.length := by simpa using hi
    have hp := h i l[i] (List.getElem?_eq_getElem hi')
    simp only [List.getElem_map, List.getElem_range]
    rw [Bool.eq_iff_iff, hp, decide_eq_true_iff]
  have hperm : ((List.range l.length).filter fun i => decide (i ∈ places)).Perm places := by
    rw [List.perm_ext_iff_of_nodup (List.nodup_range.filter _) hnodup]
    intro i
    simp only [List.mem_filter, List.mem_range, decide_eq_true_eq]
    exact ⟨fun hi => hi.2, fun hi => ⟨hbound i hi, hi⟩⟩
  calc (l.filter p).length
      = (l.map p).countP id := by rw [List.countP_map, Function.id_comp, List.countP_eq_length_filter]
    _ = ((List.range l.length).filter fun i => decide (i ∈ places)).length := by
      rw [hmap, List.countP_map, Function.id_comp, List.countP_eq_length_filter]
    _ = places.length := hperm.length_eq

theorem sum_map_set (q : α → Nat) {l : List α} {k : Nat} {a : α} (h : l[k]? = some a) (b : α) :
    ((l.set k b).map q).sum + q a = (l.map q).sum + q b := by
  obtain ⟨before, after, rfl, -, hset⟩ := split_of_getElem? h
  rw [hset]
  simp only [List.map_append, List.map_cons, List.sum_append, List.sum_cons]
  omega

end MempoolGate
