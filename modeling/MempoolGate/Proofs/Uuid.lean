import MempoolGate.Proofs.Text.Hex
import MempoolGate.Uuid

namespace MempoolGate.Uuid

def groups (u : Uuid) : List (List Char) :=
  let d := Text.hexEncode u.bytes
  [(d.drop 0).take 8, (d.drop 8).take 4, (d.drop 12).take 4, (d.drop 16).take 4, (d.drop 20).take 12]

theorem toList_text (u : Uuid) : u.text.toList = ['-'].intercalate u.groups := by
  rw [text, String.toList_ofList]
  simp [groups]

theorem length_digits (u : Uuid) : (Text.hexEncode u.bytes).length = 32 := by
  rw [Text.length_hexEncode, u.length_eq]

theorem length_groups (u : Uuid) : u.groups.map List.length = [8, 4, 4, 4, 12] := by
  simp [groups, length_digits]

theorem flatten_groups (u : Uuid) : u.groups.flatten = Text.hexEncode u.bytes := by
  have hlength := u.length_digits
  generalize hd : Text.hexEncode u.bytes = d at hlength ⊢
  have hnext : ∀ start count, (d.drop start).take count ++ d.drop (start + count) = d.drop start := by
    intro start count
    rw [← List.drop_drop, List.take_append_drop]
  have hlast : (d.drop 20).take 12 = d.drop 20 :=
    List.take_of_length_le (by simp [hlength])
  rw [groups, hd]
  simp only [List.flatten_cons, List.flatten_nil, List.append_nil]
  rw [hlast, hnext 16 4, hnext 12 4, hnext 8 4, hnext 0 8, List.drop_zero]

theorem hexDigit_ne_hyphen : ∀ n < 16, Text.hexDigit n ≠ '-' := by
  decide

theorem hyphen_notMem_groups (u : Uuid) : ∀ g ∈ u.groups, '-' ∉ g := by
  have hdigits : '-' ∉ Text.hexEncode u.bytes := by
    intro hmem
    obtain ⟨n, hn, hc⟩ := Text.exists_hexDigit hmem
    exact hexDigit_ne_hyphen n hn hc.symm
  have hpart : ∀ start count, '-' ∉ ((Text.hexEncode u.bytes).drop start).take count :=
    fun _ _ hmem => hdigits (List.mem_of_mem_drop (List.mem_of_mem_take hmem))
  intro g hg
  rw [groups] at hg
  simp only [List.mem_cons, List.not_mem_nil, or_false] at hg
  rcases hg with rfl | rfl | rfl | rfl | rfl <;> exact hpart _ _

theorem ungroup?_text (u : Uuid) : ungroup? u.text.toList = some (Text.hexEncode u.bytes) := by
  have hsplit : u.text.toList.splitOn '-' = u.groups := by
    rw [toList_text]
    exact List.splitOn_intercalate '-' u.hyphen_notMem_groups (List.cons_ne_nil _ _)
  have hflatten := u.flatten_groups
  rw [groups] at hflatten
  simp only [List.flatten_cons, List.flatten_nil, List.append_nil] at hflatten
  rw [ungroup?, hsplit, groups]
  simp only [List.append_assoc, hflatten]
  exact if_pos u.length_groups

theorem length_text (u : Uuid) : u.text.toList.length = 36 := by
  simp [text, length_digits]

theorem parse?_text (u : Uuid) : parse? u.text = some u := by
  have hlength := u.length_text
  have hbytes : FixedBytes.ofBytes? 16 u.bytes = some u := dif_pos u.length_eq
  rw [parse?]
  simp [hlength, ungroup?_text, Text.hexDecode?_hexEncode, hbytes]

end MempoolGate.Uuid
