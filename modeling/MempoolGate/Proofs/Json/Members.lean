import MempoolGate.Json.Decode
import MempoolGate.Proofs.Json.Document

namespace MempoolGate.Json

variable {α β : Type}

namespace Members

def under (key : String) (members : Members) : List Doc :=
  (members.extract key).1

def isKeyed : Members → Bool
  | .done | .broken => true
  | .cons key _ rest => key.isSome && rest.isKeyed

theorem under_cons (key name : String) (value : Doc) (rest : Members) :
    (Members.cons (some name) value rest).under key =
      if name = key then value :: rest.under key else rest.under key := by
  by_cases h : name = key <;> simp [under, extract, h]

theorem under_sublist (key name : String) (value : Doc) (rest : Members) :
    (rest.under key).Sublist ((cons (some name) value rest).under key) := by
  rw [under_cons]
  split
  · exact List.sublist_cons_self value _
  · exact List.Sublist.refl _

theorem under_ofPlain (key : String) (ms : List (String × Plain)) :
    (ofPlain ms).under key = (ms.filter fun m => m.1 = key).map fun m => m.2.doc := by
  induction ms with
  | nil => rfl
  | cons m ms ih =>
    rw [ofPlain, under_cons, ih]
    by_cases h : m.1 = key <;> simp [h]

theorem isKeyed_ofPlain (ms : List (String × Plain)) : (ofPlain ms).isKeyed = true := by
  induction ms with
  | nil => rfl
  | cons m ms ih => rw [ofPlain, isKeyed, ih, Option.isSome_some, Bool.and_true]

theorem isWhole_ofTexts (items : List String) : (Items.ofTexts items).isWhole = true := by
  induction items with
  | nil => rfl
  | cons s items ih =>
    have hs : (Doc.str (some s)).isWhole = true := rfl
    rw [Items.ofTexts, Items.isWhole, hs, ih, Bool.and_true]

theorem isWhole_ofPlain (ms : List (String × Plain)) : (ofPlain ms).isWhole = true := by
  induction ms with
  | nil => rfl
  | cons m ms ih =>
    have hvalue : m.2.doc.isWhole = true := by
      cases m.2 with
      | list items => exact isWhole_ofTexts items
      | null | int | str => rfl
    rw [ofPlain, isWhole, hvalue, ih, Bool.and_true]

end Members

inductive TextUnder : List Doc → Option String → Prop
  | absent : TextUnder [] none
  | null : TextUnder [.null] none
  | text (s : String) : TextUnder [.str (some s)] (some s)

inductive WordUnder (fallback : UInt64) : List Doc → UInt64 → Prop
  | absent : WordUnder fallback [] fallback
  | number {n : Numeral} {w : UInt64} (value : n.value? = some (.whole w.toNat)) :
      WordUnder fallback [.num n] w

namespace Fields

/-- What stands under the names of the fields makes the record `a`: each name at most once, and with a
value that its field takes. -/
structure Takes (fields : Fields α) (under : String → List Doc) (a : α) : Prop where
  once : ∀ rule ∈ fields.rules, (under rule.name).length ≤ 1
  checks : ∀ rule ∈ fields.rules, ∀ d ∈ under rule.name, rule.check d = none
  build : ∀ row : Row, (∀ rule ∈ fields.rules, row.lookup rule.name = (under rule.name).head?) →
    fields.build row = .ok a

variable {under : String → List Doc}

theorem takes_one {name : String} {r : Reader α} {mayTrail : Bool} {absent : Except Fault α} {a : α}
    (h : under name = [] ∧ absent = .ok a ∨ ∃ d, under name = [d] ∧ r d = .ok a) :
    (one name r mayTrail absent).Takes under a := by
  constructor
  · intro rule hrule
    obtain rfl := List.mem_singleton.mp hrule
    rcases h with ⟨h, -⟩ | ⟨d, h, -⟩ <;> simp [h]
  · intro rule hrule
    obtain rfl := List.mem_singleton.mp hrule
    rcases h with ⟨h, -⟩ | ⟨d, h, hd⟩
    · simp [h]
    · simp [h, faultOf, hd]
  · intro row hrow
    have hlookup := hrow _ List.mem_cons_self
    dsimp only at hlookup
    rcases h with ⟨h, habsent⟩ | ⟨d, h, hd⟩
    · rw [h, List.head?_nil] at hlookup
      simp only [one, hlookup, habsent]
    · rw [h, List.head?_cons] at hlookup
      simp only [one, hlookup, hd]

theorem takes_text {name s : String} (h : under name = [.str (some s)]) :
    (required name .text).Takes under s :=
  takes_one (.inr ⟨_, h, rfl⟩)

theorem takes_optional {name : String} {o : Option String} (h : TextUnder (under name) o) :
    (optional name .text).Takes under o := by
  generalize hds : under name = ds at h
  cases h with
  | absent => exact takes_one (.inl ⟨hds, rfl⟩)
  | null => exact takes_one (.inr ⟨_, hds, rfl⟩)
  | text s => exact takes_one (.inr ⟨_, hds, rfl⟩)

theorem takes_word {name : String} {fallback w : UInt64}
    (h : WordUnder fallback (under name) w) : (defaulted name .word fallback).Takes under w := by
  generalize hds : under name = ds at h
  cases h with
  | absent => exact takes_one (.inl ⟨hds, rfl⟩)
  | number hvalue =>
    refine takes_one (.inr ⟨_, hds, ?_⟩)
    simp only [Reader.word, Reader.integerBy, hvalue]
    rw [Int.toNat_natCast, if_pos ⟨Int.natCast_nonneg _, w.toNat_lt_size⟩, UInt64.ofNat_toNat]

theorem Takes.map {x : Fields α} {a : α} (h : x.Takes under a) (f : α → β) :
    (f <$> x).Takes under (f a) := by
  refine ⟨h.once, h.checks, fun row hrow => ?_⟩
  change (do let b ← x.build row; return f b) = Except.ok (f a)
  rw [h.build row hrow]
  rfl

theorem Takes.seq {f : Fields (α → β)} {x : Fields α} {g : α → β} {a : α} (hf : f.Takes under g)
    (hx : x.Takes under a) : (f <*> x).Takes under (g a) := by
  refine ⟨List.forall_mem_append.mpr ⟨hf.once, hx.once⟩,
    List.forall_mem_append.mpr ⟨hf.checks, hx.checks⟩, fun row hrow => ?_⟩
  obtain ⟨hrowf, hrowx⟩ := List.forall_mem_append.mp hrow
  change (do let g ← f.build row; let b ← x.build row; return g b) = Except.ok (g a)
  rw [hf.build row hrowf, hx.build row hrowx]
  rfl

theorem name_of_find? {rules : List FieldRule} {key : String} {rule : FieldRule}
    (h : rules.find? (·.name = key) = some rule) : rule ∈ rules ∧ rule.name = key :=
  ⟨List.mem_of_find?_eq_some h, by simpa using List.find?_some h⟩

/-- The row of an object has for each field the value that stands under its name. -/
theorem exists_rowOfMembers {rules : List FieldRule} {members : Members}
    (hwhole : members.isWhole = true) (hkeyed : members.isKeyed = true) (seen : List String)
    (honce : ∀ rule ∈ rules, (members.under rule.name).length ≤ 1)
    (hseen : ∀ rule ∈ rules, rule.name ∈ seen → members.under rule.name = [])
    (hchecks : ∀ rule ∈ rules, ∀ d ∈ members.under rule.name, rule.check d = none) :
    ∃ row, rowOfMembers rules seen members = .ok row ∧
      ∀ rule ∈ rules, row.lookup rule.name = (members.under rule.name).head? := by
  fun_induction rowOfMembers rules seen members with
  | case1 => exact ⟨[], rfl, fun _ _ => rfl⟩
  | case2 => cases hwhole
  | case3 => cases hkeyed
  | case4 seen key value rest hfind hvalue ih =>
    -- no field asks for this member
    have hunder : ∀ rule ∈ rules,
        (Members.cons (some key) value rest).under rule.name = rest.under rule.name := by
      intro rule hrule
      have hname : rule.name ≠ key := by
        simpa using List.find?_eq_none.mp hfind rule hrule
      rw [Members.under_cons, if_neg (Ne.symm hname)]
    rw [Members.isWhole, Bool.and_eq_true] at hwhole
    obtain ⟨row, hrow, hlookup⟩ := ih hwhole.2 hkeyed
      (fun rule hrule => hunder rule hrule ▸ honce rule hrule)
      (fun rule hrule => hunder rule hrule ▸ hseen rule hrule)
      (fun rule hrule => hunder rule hrule ▸ hchecks rule hrule)
    exact ⟨row, hrow, fun rule hrule => by rw [hunder rule hrule, hlookup rule hrule]⟩
  | case5 seen key value rest hfind hvalue =>
    rw [Members.isWhole, Bool.and_eq_true] at hwhole
    exact absurd hwhole.1 hvalue
  | case6 seen key value rest rule hfind hmem =>
    obtain ⟨hrule, rfl⟩ := name_of_find? hfind
    have hnone := hseen rule hrule hmem
    rw [Members.under_cons, if_pos rfl] at hnone
    cases hnone
  | case7 seen key value rest rule hfind hmem fault hcheck =>
    obtain ⟨hrule, rfl⟩ := name_of_find? hfind
    have hnone := hchecks rule hrule value (by simp [Members.under_cons])
    rw [hcheck] at hnone
    cases hnone
  | case8 seen key value rest rule hfind hmem hcheck ih =>
    obtain ⟨hrule, rfl⟩ := name_of_find? hfind
    rw [Members.isWhole, Bool.and_eq_true] at hwhole
    have hnone : rest.under rule.name = [] := by
      have hlength := honce rule hrule
      rw [Members.under_cons, if_pos rfl, List.length_cons] at hlength
      exact List.length_eq_zero_iff.mp (by omega)
    have hsub := fun key => Members.under_sublist key rule.name value rest
    have hseen' : ∀ other ∈ rules, other.name ∈ rule.name :: seen → rest.under other.name = [] := by
      intro other hother hin
      rcases List.mem_cons.mp hin with heq | hin
      · rw [heq, hnone]
      · have hempty := hsub other.name
        rw [hseen other hother hin] at hempty
        exact List.sublist_nil.mp hempty
    obtain ⟨row, hrow, hlookup⟩ := ih hwhole.2 hkeyed
      (fun other hother => Nat.le_trans (hsub other.name).length_le (honce other hother)) hseen'
      (fun other hother d hd => hchecks other hother d ((hsub other.name).subset hd))
    refine ⟨(rule.name, value) :: row, by rw [hrow]; rfl, fun other hother => ?_⟩
    rw [List.lookup_cons, Members.under_cons]
    by_cases heq : other.name = rule.name
    · rw [if_pos heq.symm, heq, beq_self_eq_true]
      rfl
    · rw [if_neg (Ne.symm heq), beq_false_of_ne heq]
      exact hlookup other hother

/-- An object is read as the record that the members under the names of the fields make. -/
theorem Takes.readMembers {fields : Fields α} {members : Members} {a : α}
    (h : fields.Takes members.under a) (hwhole : members.isWhole = true)
    (hkeyed : members.isKeyed = true) : fields.readMembers members = .ok a := by
  obtain ⟨row, hrow, hlookup⟩ :=
    exists_rowOfMembers hwhole hkeyed [] h.once (fun _ _ hin => absurd hin List.not_mem_nil) h.checks
  rw [Fields.readMembers, hrow]
  exact h.build row hlookup

end Fields

end MempoolGate.Json
