import MempoolGate.Plan

namespace MempoolGate.Plan

theorem resolve_mem (text : String) : resolve text ∈ all := by
  unfold resolve
  cases h : all.find? fun p => Text.equalsIgnoringCase p.id (Text.trim text) with
  | none => exact List.mem_cons_self
  | some p => exact List.mem_of_find?_eq_some h

theorem resolve_id_of_mem : ∀ p ∈ all, resolve p.id = p := by
  decide

/-- The id under which a plan is stored means the same plan as the text it was named by. -/
theorem resolve_id_resolve (text : String) : resolve (resolve text).id = resolve text :=
  resolve_id_of_mem _ (resolve_mem text)

end MempoolGate.Plan
