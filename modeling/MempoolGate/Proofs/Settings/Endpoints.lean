import MempoolGate.Settings
import MempoolGate.Proofs.List
import MempoolGate.Proofs.Text.Trimming

namespace MempoolGate

structure IsEndpoint (e : String) : Prop where
  ne_empty : e ≠ ""
  stripped : Text.IsStripped e.toList
  comma_notMem : ',' ∉ e.toList

/-- Between its commas a text has these endpoints in this order, each with white space around it or not,
and among them any number of parts that are empty or blank. -/
inductive Spaced : List String → List String → Prop
  | nil : Spaced [] []
  | blank {part : String} {parts endpoints : List String} (hpart : Text.Padded part [])
      (h : Spaced parts endpoints) : Spaced (part :: parts) endpoints
  | endpoint {part e : String} {parts endpoints : List String} (hpart : Text.Padded part e.toList)
      (h : Spaced parts endpoints) : Spaced (part :: parts) (e :: endpoints)

variable {part e raw : String} {parts endpoints : List String}

theorem endpointList_comma (a b : String) :
    endpointList (a ++ "," ++ b) = endpointList a ++ endpointList b := by
  have hlist : (a ++ "," ++ b).toList = a.toList ++ ',' :: b.toList := by
    rw [String.toList_append, String.toList_append, List.append_assoc]
    rfl
  rw [endpointList, hlist, List.splitOn_append_cons_self, List.map_append, List.filter_append]
  rfl

theorem endpointList_intercalate (parts : List String) :
    endpointList (",".intercalate parts) = parts.flatMap endpointList := by
  induction parts with
  | nil => rfl
  | cons part parts ih =>
    cases parts with
    | nil => rw [String.intercalate_singleton, List.flatMap_singleton]
    | cons next parts =>
      rw [String.intercalate_cons_cons, endpointList_comma, ih]
      exact List.flatMap_cons.symm

theorem endpointList_of_notMem (h : ',' ∉ part.toList) :
    endpointList part = [Text.trim part].filter (· ≠ "") := by
  rw [endpointList, List.splitOn_eq_singleton h, List.map_singleton, String.ofList_toList]

theorem comma_notMem_of_padded {cs : List Char} (hpart : Text.Padded part cs) (h : ',' ∉ cs) :
    ',' ∉ part.toList := by
  obtain ⟨before, after, hlist, hbefore, hafter⟩ := hpart
  rw [hlist, List.mem_append, List.mem_append]
  rintro (hmem | hmem | hmem)
  · exact absurd (hbefore _ hmem) (by decide)
  · exact h hmem
  · exact absurd (hafter _ hmem) (by decide)

theorem endpointList_of_blank (hpart : Text.Padded part []) : endpointList part = [] := by
  have htrim : Text.trim part = "" := by
    rw [Text.trim, hpart.strip_eq nofun]
  rw [endpointList_of_notMem (comma_notMem_of_padded hpart List.not_mem_nil), htrim]
  rfl

theorem IsEndpoint.endpointList_of_padded (h : IsEndpoint e) (hpart : Text.Padded part e.toList) :
    endpointList part = [e] := by
  have htrim : Text.trim part = e := by
    rw [Text.trim, hpart.strip_of_isStripped h.stripped, String.ofList_toList]
  rw [endpointList_of_notMem (comma_notMem_of_padded hpart h.comma_notMem), htrim]
  exact List.filter_cons_of_pos (decide_eq_true h.ne_empty)

theorem Spaced.flatMap_eq (h : Spaced parts endpoints) (hall : ∀ e ∈ endpoints, IsEndpoint e) :
    parts.flatMap endpointList = endpoints := by
  induction h with
  | nil => rfl
  | blank hpart _ ih => rw [List.flatMap_cons, endpointList_of_blank hpart, ih hall, List.nil_append]
  | endpoint hpart _ ih =>
    rw [List.forall_mem_cons] at hall
    rw [List.flatMap_cons, hall.1.endpointList_of_padded hpart, ih hall.2, List.singleton_append]

theorem isEndpoint_of_mem (h : e ∈ endpointList raw) : IsEndpoint e := by
  obtain ⟨hmem, hne⟩ := List.mem_filter.mp h
  obtain ⟨part, hpart, rfl⟩ := List.mem_map.mp hmem
  refine ⟨of_decide_eq_true hne, Text.isStripped_trim _, fun hcomma => ?_⟩
  obtain ⟨before, after, hlist, -⟩ := Text.padded_strip (String.ofList part)
  rw [String.toList_ofList] at hlist
  rw [Text.toList_trim, String.toList_ofList] at hcomma
  refine notMem_of_mem_splitOn hpart ?_
  rw [hlist]
  exact List.mem_append_right _ (List.mem_append_left _ hcomma)

/-- Trimming the parts and leaving out the empty ones takes the white space away and nothing else. -/
theorem spaced_trim (parts : List String) :
    Spaced parts ((parts.map Text.trim).filter (· ≠ "")) := by
  induction parts with
  | nil => exact .nil
  | cons part parts ih =>
    have hpart := Text.padded_strip part
    rw [← Text.toList_trim] at hpart
    rw [List.map_cons]
    by_cases hblank : Text.trim part = ""
    · rw [List.filter_cons_of_neg (by simp [hblank])]
      rw [hblank] at hpart
      exact .blank hpart ih
    · rw [List.filter_cons_of_pos (by simp [hblank])]
      exact .endpoint hpart ih

theorem exists_spaced (raw : String) :
    ∃ parts, raw = ",".intercalate parts ∧ Spaced parts (endpointList raw) := by
  refine ⟨(raw.toList.splitOn ',').map String.ofList, ?_, ?_⟩
  · have hparts : ((raw.toList.splitOn ',').map String.ofList).map String.toList =
        raw.toList.splitOn ',' := by
      rw [List.map_map]
      exact List.map_id'' (fun _ => String.toList_ofList) _
    rw [← String.toList_inj, String.toList_intercalate, hparts]
    exact (List.intercalate_splitOn ',').symm
  · have hspaced := spaced_trim ((raw.toList.splitOn ',').map String.ofList)
    rwa [List.map_map] at hspaced

theorem padded_self (e : String) : Text.Padded e e.toList :=
  ⟨[], [], by rw [List.nil_append, List.append_nil], nofun, nofun⟩

theorem spaced_self (endpoints : List String) : Spaced endpoints endpoints := by
  induction endpoints with
  | nil => exact .nil
  | cons e endpoints ih => exact .endpoint (padded_self e) ih

theorem isEndpoint_iff : IsEndpoint e ↔ endpointList e = [e] := by
  constructor
  · intro h
    exact h.endpointList_of_padded (padded_self e)
  · intro h
    have hmem : e ∈ endpointList e := by
      rw [h]
      exact List.mem_singleton_self e
    exact isEndpoint_of_mem hmem

instance : Decidable (IsEndpoint e) :=
  decidable_of_iff _ isEndpoint_iff.symm

theorem Spaced.endpointList_eq (h : Spaced parts endpoints) (hall : ∀ e ∈ endpoints, IsEndpoint e) :
    endpointList (",".intercalate parts) = endpoints := by
  rw [endpointList_intercalate, h.flatMap_eq hall]

/-- A comma joins two lists. What is read are endpoints, and endpoints are read from exactly the texts
that space them, in order and as often as they stand there. So with a comma alone between them they are
read as they are. -/
theorem endpointList_of_spaced :
    (∀ a b, endpointList (a ++ "," ++ b) = endpointList a ++ endpointList b) ∧
    (∀ raw, ∀ e ∈ endpointList raw, IsEndpoint e) ∧
    (∀ endpoints, (∀ e ∈ endpoints, IsEndpoint e) → ∀ parts, Spaced parts endpoints →
      endpointList (",".intercalate parts) = endpoints) ∧
    (∀ raw, ∃ parts, raw = ",".intercalate parts ∧ Spaced parts (endpointList raw)) ∧
    ∀ raw, endpointList (",".intercalate (endpointList raw)) = endpointList raw := by
  have hread : ∀ raw, ∀ e ∈ endpointList raw, IsEndpoint e := fun _ _ => isEndpoint_of_mem
  refine ⟨endpointList_comma, hread, fun endpoints hall parts h => h.endpointList_eq hall,
    exists_spaced, fun raw => ?_⟩
  exact (spaced_self (endpointList raw)).endpointList_eq (hread raw)

def mirrors : List String :=
  ["wss://a", "wss://b", "wss://a"]

def mirrorParts : List String :=
  ["", " wss://a\t", "\u2003", "wss://b\u00a0", "\nwss://a", ""]

theorem endpointList_of_spaced_mirrors :
    (∀ e ∈ mirrors, IsEndpoint e) ∧ Spaced mirrorParts mirrors ∧
      endpointList ", wss://a\t,\u2003,wss://b\u00a0,\nwss://a," = mirrors := by
  have hall : ∀ e ∈ mirrors, IsEndpoint e := by decide +kernel
  have hspaced : Spaced mirrorParts mirrors := by
    have htrim : (mirrorParts.map Text.trim).filter (· ≠ "") = mirrors := by decide +kernel
    rw [← htrim]
    exact spaced_trim mirrorParts
  have htext : ",".intercalate mirrorParts = ", wss://a\t,\u2003,wss://b\u00a0,\nwss://a," := by
    decide +kernel
  obtain ⟨-, -, hread, -⟩ := endpointList_of_spaced
  refine ⟨hall, hspaced, ?_⟩
  rw [← htext]
  exact hread mirrors hall mirrorParts hspaced

end MempoolGate
