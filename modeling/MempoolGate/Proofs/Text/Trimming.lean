import MempoolGate.Text.Blank
import Mathlib.Data.List.TakeWhile

namespace MempoolGate.Text

theorem forall_mem_dropWhile_iff (cs : List Char) :
    (∀ c ∈ cs.dropWhile isBlank, isBlank c = true) ↔ ∀ c ∈ cs, isBlank c = true := by
  constructor
  · intro h c hc
    rw [← List.takeWhile_append_dropWhile (p := isBlank) (l := cs)] at hc
    rcases List.mem_append.mp hc with hc | hc
    · exact List.mem_takeWhile_imp hc
    · exact h c hc
  · intro h c hc
    exact h c ((List.dropWhile_sublist isBlank).mem hc)

theorem strip_eq_nil_iff (cs : List Char) : strip cs = [] ↔ ∀ c ∈ cs, isBlank c = true := by
  unfold strip
  rw [List.reverse_eq_nil_iff, List.dropWhile_eq_nil_iff]
  simp only [List.mem_reverse]
  exact forall_mem_dropWhile_iff cs

theorem trimmed?_eq_none_iff (s : String) :
    trimmed? s = none ↔ ∀ c ∈ s.toList, isBlank c = true := by
  have ht : trim s = "" ↔ strip s.toList = [] := by
    unfold trim
    constructor
    · intro h
      simpa using congrArg String.toList h
    · intro h
      rw [h]
  rw [← strip_eq_nil_iff, ← ht]
  unfold trimmed?
  by_cases h : trim s = "" <;> simp [h]

/-- The text is these characters with blank ones around them. -/
def Padded (s : String) (cs : List Char) : Prop :=
  ∃ before after, s.toList = before ++ (cs ++ after) ∧ (∀ c ∈ before, isBlank c = true) ∧
    ∀ c ∈ after, isBlank c = true

theorem padded_strip (s : String) : Padded s (strip s.toList) := by
  let kept := s.toList.dropWhile isBlank
  refine ⟨s.toList.takeWhile isBlank, (kept.reverse.takeWhile isBlank).reverse, ?_,
    fun c hc => List.mem_takeWhile_imp hc, fun c hc => ?_⟩
  · rw [strip, ← List.reverse_append, List.takeWhile_append_dropWhile, List.reverse_reverse]
    exact (List.takeWhile_append_dropWhile ..).symm
  · exact List.mem_takeWhile_imp (List.mem_reverse.mp hc)

theorem dropWhile_append_of_blank {before rest : List Char}
    (hbefore : ∀ c ∈ before, isBlank c = true) :
    (before ++ rest).dropWhile isBlank = rest.dropWhile isBlank := by
  induction before with
  | nil => rfl
  | cons c before ih =>
    rw [List.forall_mem_cons] at hbefore
    rw [List.cons_append, List.dropWhile_cons_of_pos hbefore.1, ih hbefore.2]

structure IsStripped (cs : List Char) : Prop where
  head : ∀ c ∈ cs.head?, isBlank c = false
  last : ∀ c ∈ cs.getLast?, isBlank c = false

theorem head_dropWhile (cs : List Char) :
    ∀ c ∈ (cs.dropWhile isBlank).head?, isBlank c = false := by
  intro c hc
  have hnot := List.head?_dropWhile_not isBlank cs
  rwa [hc] at hnot

theorem dropWhile_of_head {cs : List Char} (h : ∀ c ∈ cs.head?, isBlank c = false) :
    cs.dropWhile isBlank = cs := by
  cases cs with
  | nil => rfl
  | cons c rest => exact List.dropWhile_cons_of_neg (by simp [h c rfl])

theorem isStripped_strip (cs : List Char) : IsStripped (strip cs) := by
  unfold strip
  constructor
  · -- what is dropped at the end leaves the first character alone
    rw [List.head?_reverse]
    intro c hc
    have hlast : ((cs.dropWhile isBlank).reverse.takeWhile isBlank ++
        (cs.dropWhile isBlank).reverse.dropWhile isBlank).getLast? = some c := by
      rw [List.getLast?_append, hc, Option.some_or]
    rw [List.takeWhile_append_dropWhile, List.getLast?_reverse] at hlast
    exact head_dropWhile cs c hlast
  · rw [List.getLast?_reverse]
    exact head_dropWhile _

theorem Padded.strip_of_isStripped {s : String} {cs : List Char} (h : Padded s cs)
    (hcs : IsStripped cs) : strip s.toList = cs := by
  obtain ⟨before, after, hs, hbefore, hafter⟩ := h
  rw [strip, hs, dropWhile_append_of_blank hbefore]
  cases cs with
  | nil =>
    rw [List.nil_append, List.dropWhile_eq_nil_iff.mpr hafter]
    rfl
  | cons c cs =>
    have hhead : ∀ d ∈ (c :: cs ++ after).head?, isBlank d = false := hcs.head
    have hafter' : ∀ d ∈ after.reverse, isBlank d = true :=
      fun d hd => hafter d (List.mem_reverse.mp hd)
    have hlast : ∀ d ∈ (c :: cs).reverse.head?, isBlank d = false := by
      rw [List.head?_reverse]
      exact hcs.last
    rw [dropWhile_of_head hhead, List.reverse_append, dropWhile_append_of_blank hafter',
      dropWhile_of_head hlast, List.reverse_reverse]

theorem IsStripped.strip_eq {cs : List Char} (h : IsStripped cs) : strip cs = cs := by
  have hbare : Padded (String.ofList cs) cs :=
    ⟨[], [], by rw [String.toList_ofList, List.nil_append, List.append_nil], nofun, nofun⟩
  have hstrip := hbare.strip_of_isStripped h
  rwa [String.toList_ofList] at hstrip

theorem isStripped_of_notBlank {cs : List Char} (h : ∀ c ∈ cs, isBlank c = false) :
    IsStripped cs :=
  ⟨fun c hc => h c (List.mem_of_head? hc), fun c hc => h c (List.mem_of_getLast? hc)⟩

theorem Padded.strip_eq {s : String} {cs : List Char} (h : Padded s cs)
    (hcs : ∀ c ∈ cs, isBlank c = false) : strip s.toList = cs :=
  h.strip_of_isStripped (isStripped_of_notBlank hcs)

theorem toList_trim (s : String) : (trim s).toList = strip s.toList :=
  String.toList_ofList

/-- A text holds something that has no blank characters, with blank ones around it, exactly if trimming
leaves it. -/
theorem exists_padded_iff {s : String} {P : List Char → Prop}
    (hP : ∀ cs, P cs → ∀ c ∈ cs, isBlank c = false) :
    (∃ cs, Padded s cs ∧ P cs) ↔ P (trim s).toList := by
  rw [toList_trim]
  constructor
  · rintro ⟨cs, hpadded, hcs⟩
    rw [hpadded.strip_eq (hP cs hcs)]
    exact hcs
  · intro hcs
    exact ⟨_, padded_strip s, hcs⟩

theorem isStripped_trim (s : String) : IsStripped (trim s).toList := by
  rw [toList_trim]
  exact isStripped_strip s.toList

theorem trimmed?_of_blank {s : String} (h : trim s = "") : trimmed? s = none :=
  if_pos h

theorem trimmed?_of_ne {s : String} (h : trim s ≠ "") : trimmed? s = some (trim s) :=
  if_neg h

theorem trimmed?_eq_some_iff {s t : String} : trimmed? s = some t ↔ trim s = t ∧ t ≠ "" := by
  by_cases hblank : trim s = ""
  · rw [trimmed?_of_blank hblank]
    refine iff_of_false nofun ?_
    rintro ⟨rfl, hne⟩
    exact hne hblank
  · rw [trimmed?_of_ne hblank, Option.some.injEq]
    refine ⟨fun htrim => ⟨htrim, ?_⟩, And.left⟩
    rw [← htrim]
    exact hblank

theorem splitOnP_isBlank_filter_eq_nil_iff (cs : List Char) :
    (cs.splitOnP isBlank).filter (· ≠ []) = [] ↔ ∀ c ∈ cs, isBlank c = true := by
  induction cs with
  | nil => simp
  | cons c cs ih =>
    rw [List.splitOnP_cons_eq_if_modifyHead, List.forall_mem_cons]
    cases hc : isBlank c with
    | true => simpa using ih
    | false =>
      obtain ⟨word, words, hwords⟩ := List.exists_cons_of_ne_nil (List.splitOnP_ne_nil isBlank cs)
      simp [hwords]

theorem words_eq_nil_iff (s : String) : words s = [] ↔ trimmed? s = none := by
  rw [trimmed?_eq_none_iff, words, List.map_eq_nil_iff]
  exact splitOnP_isBlank_filter_eq_nil_iff s.toList

theorem ne_empty_of_mem_words {s word : String} (h : word ∈ words s) : word ≠ "" := by
  obtain ⟨cs, hcs, rfl⟩ := List.mem_map.mp h
  have hne : cs ≠ [] := by simpa using (List.mem_filter.mp hcs).2
  rintro hempty
  exact hne (by simpa using congrArg String.toList hempty)

end MempoolGate.Text
