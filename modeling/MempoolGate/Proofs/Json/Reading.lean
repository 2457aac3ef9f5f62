import Mathlib.Data.List.Forall2
import Mathlib.Data.List.Nodup
import MempoolGate.Proofs.Except
import MempoolGate.Proofs.Json.Members

namespace MempoolGate.Json

variable {α β : Type}

def Items.ofDocs : List Doc → Items
  | [] => .done
  | d :: docs => .cons d (ofDocs docs)

theorem Items.isWhole_ofDocs {docs : List Doc} :
    (ofDocs docs).isWhole = true ↔ ∀ d ∈ docs, d.isWhole = true := by
  induction docs with
  | nil => exact iff_of_true rfl nofun
  | cons d docs ih => rw [ofDocs, isWhole, Bool.and_eq_true, ih, List.forall_mem_cons]

namespace Row

def under (row : Row) (name : String) : List Doc :=
  (row.filter fun m => m.1 = name).map (·.2)

theorem under_cons (m : String × Doc) (row : Row) (name : String) :
    under (m :: row) name = if m.1 = name then m.2 :: under row name else under row name := by
  by_cases h : m.1 = name <;> simp [under, h]

theorem under_eq_nil {row : Row} {name : String} (h : name ∉ row.map Prod.fst) :
    under row name = [] := by
  rw [under, List.map_eq_nil_iff, List.filter_eq_nil_iff]
  rintro m hm hname
  exact h (of_decide_eq_true hname ▸ List.mem_map_of_mem hm)

theorem lookup_eq_head? (row : Row) (name : String) :
    row.lookup name = (under row name).head? := by
  induction row with
  | nil => rfl
  | cons m row ih =>
    rw [List.lookup_cons, under_cons]
    by_cases h : m.1 = name
    · rw [if_pos h, h, beq_self_eq_true]
      rfl
    · rw [if_neg h, beq_false_of_ne (Ne.symm h)]
      exact ih

def ofNames (under : String → List Doc) (names : List String) : Row :=
  names.filterMap fun name => (under name).head?.map fun d => (name, d)

theorem lookup_ofNames (under : String → List Doc) (names : List String) (name : String) :
    (ofNames under names).lookup name = if name ∈ names then (under name).head? else none := by
  induction names with
  | nil => rfl
  | cons first names ih =>
    rw [ofNames, List.filterMap_cons]
    by_cases h : name = first
    · subst first
      rw [if_pos List.mem_cons_self]
      cases hhead : (under name).head? with
      | none =>
        refine ih.trans ?_
        rw [hhead, ite_self]
      | some d =>
        simp only [Option.map_some, List.lookup_cons, beq_self_eq_true]
    · have hmem : name ∈ first :: names ↔ name ∈ names := by simp [h]
      rw [if_congr hmem rfl rfl]
      cases (under first).head? with
      | none => exact ih
      | some d =>
        simp only [Option.map_some, List.lookup_cons, beq_false_of_ne h]
        exact ih

end Row

/-- The tree gives values under names: as an object, or as an array with one value for each of them. -/
inductive Doc.LaysOut (names : List String) : Doc → (String → List Doc) → Prop
  | object (members : Members) (whole : members.isWhole = true) (keyed : members.isKeyed = true) :
      LaysOut names (.obj members) members.under
  | array (docs : List Doc) (length : docs.length = names.length) :
      LaysOut names (.arr (.ofDocs docs)) (Row.under (names.zip docs))

theorem exists_of_forall₂ {R : α → β → Prop} {as : List α} {bs : List β} (h : List.Forall₂ R as bs)
    {b : β} (hb : b ∈ bs) : ∃ a ∈ as, R a b := by
  induction h with
  | nil => cases hb
  | @cons a b as bs hR _ ih =>
    rcases List.mem_cons.mp hb with rfl | hb
    · exact ⟨a, List.mem_cons_self, hR⟩
    · obtain ⟨a, ha, hR⟩ := ih hb
      exact ⟨a, List.mem_cons_of_mem _ ha, hR⟩

def Reader.TakesWhole (r : Reader α) : Prop :=
  ∀ d a, r d = .ok a → d.isWhole = true

namespace Fields

def names (fields : Fields α) : List String :=
  fields.rules.map (·.name)

theorem name_mem_names {fields : Fields α} {rule : FieldRule} (h : rule ∈ fields.rules) :
    rule.name ∈ fields.names :=
  List.mem_map_of_mem h

/-- The fields take nothing that is broken, and the record is made of the values under their names
alone. -/
structure Lawful (fields : Fields α) : Prop where
  whole : ∀ rule ∈ fields.rules, ∀ d, rule.check d = none → d.isWhole = true
  congr : ∀ row row' : Row, (∀ rule ∈ fields.rules, row.lookup rule.name = row'.lookup rule.name) →
    fields.build row = fields.build row'

theorem faultOf_eq_none_iff {r : Reader α} {d : Doc} : faultOf r d = none ↔ ∃ a, r d = .ok a := by
  unfold faultOf
  cases r d with
  | ok a => exact iff_of_true rfl ⟨a, rfl⟩
  | error e => exact iff_of_false nofun nofun

theorem lawful_one {name : String} {r : Reader α} (h : r.TakesWhole) (mayTrail : Bool)
    (absent : Except Fault α) : (one name r mayTrail absent).Lawful := by
  constructor
  · intro rule hrule d hd
    obtain rfl := List.mem_singleton.mp hrule
    obtain ⟨a, ha⟩ := faultOf_eq_none_iff.mp hd
    exact h d a ha
  · intro row row' hrow
    have hlookup := hrow _ (List.mem_singleton_self _)
    dsimp only at hlookup
    simp only [one, hlookup]

theorem Lawful.map {x : Fields α} (h : x.Lawful) (f : α → β) : (f <$> x).Lawful := by
  refine ⟨h.whole, fun row row' hrow => ?_⟩
  change (do let a ← x.build row; return f a) = (do let a ← x.build row'; return f a)
  rw [h.congr row row' hrow]

theorem Lawful.seq {f : Fields (α → β)} {x : Fields α} (hf : f.Lawful) (hx : x.Lawful) :
    (f <*> x).Lawful := by
  refine ⟨List.forall_mem_append.mpr ⟨hf.whole, hx.whole⟩, fun row row' hrow => ?_⟩
  obtain ⟨hrowf, hrowx⟩ := List.forall_mem_append.mp hrow
  change (do let g ← f.build row; let a ← x.build row; return g a) =
    (do let g ← f.build row'; let a ← x.build row'; return g a)
  rw [hf.congr row row' hrowf, hx.congr row row' hrowx]

variable {under : String → List Doc}

/-- One row with the values under the names tells what any such row makes. -/
theorem Lawful.build_eq {fields : Fields α} (h : fields.Lawful) {row : Row}
    (hrow : ∀ rule ∈ fields.rules, row.lookup rule.name = (under rule.name).head?) :
    fields.build (.ofNames under fields.names) = fields.build row := by
  refine h.congr _ _ fun rule hrule => ?_
  rw [Row.lookup_ofNames, if_pos (name_mem_names hrule), hrow rule hrule]

theorem Lawful.takes_iff {fields : Fields α} (h : fields.Lawful) {a : α} :
    fields.Takes under a ↔ (∀ rule ∈ fields.rules, (under rule.name).length ≤ 1) ∧
      (∀ rule ∈ fields.rules, ∀ d ∈ under rule.name, rule.check d = none) ∧
      fields.build (.ofNames under fields.names) = .ok a := by
  constructor
  · intro ht
    refine ⟨ht.once, ht.checks, ht.build _ fun rule hrule => ?_⟩
    rw [Row.lookup_ofNames, if_pos (name_mem_names hrule)]
  · rintro ⟨honce, hchecks, hbuild⟩
    exact ⟨honce, hchecks, fun row hrow => (h.build_eq hrow).symm.trans hbuild⟩

theorem takes_one_iff {name : String} {r : Reader α} {mayTrail : Bool} {absent : Except Fault α}
    {a : α} : (one name r mayTrail absent).Takes under a ↔
      under name = [] ∧ absent = .ok a ∨ ∃ d, under name = [d] ∧ r d = .ok a := by
  refine ⟨fun h => ?_, takes_one⟩
  have hbuild := h.build (.ofNames under [name]) fun rule hrule => by
    obtain rfl := List.mem_singleton.mp hrule
    rw [Row.lookup_ofNames, if_pos (List.mem_singleton_self _)]
  rw [one] at hbuild
  simp only [Row.lookup_ofNames, List.mem_singleton, if_true] at hbuild
  have honce := h.once _ (List.mem_singleton_self _)
  dsimp only at honce
  rcases hvalues : under name with _ | ⟨d, _ | ⟨second, rest⟩⟩
  · rw [hvalues] at hbuild
    exact .inl ⟨rfl, hbuild⟩
  · rw [hvalues] at hbuild
    exact .inr ⟨d, rfl, hbuild⟩
  · rw [hvalues] at honce
    exact absurd honce (by simp)

theorem takes_map_iff {x : Fields α} (hx : x.Lawful) {f : α → β} {b : β} :
    (f <$> x).Takes under b ↔ ∃ a, x.Takes under a ∧ f a = b := by
  constructor
  · intro h
    obtain ⟨honce, hchecks, hbuild⟩ := (hx.map f).takes_iff.mp h
    change (do let a ← x.build (.ofNames under x.names); return f a) = Except.ok b at hbuild
    obtain ⟨a, ha, hb⟩ := bind_eq_ok_iff.mp hbuild
    exact ⟨a, hx.takes_iff.mpr ⟨honce, hchecks, ha⟩, Except.ok.inj hb⟩
  · rintro ⟨a, ha, rfl⟩
    exact ha.map f

theorem takes_seq_iff {f : Fields (α → β)} {x : Fields α} (hf : f.Lawful) (hx : x.Lawful) {b : β} :
    (f <*> x).Takes under b ↔ ∃ g a, f.Takes under g ∧ x.Takes under a ∧ g a = b := by
  constructor
  · intro h
    obtain ⟨honce, hchecks, hbuild⟩ := (hf.seq hx).takes_iff.mp h
    obtain ⟨honcef, honcex⟩ := List.forall_mem_append.mp honce
    obtain ⟨hchecksf, hchecksx⟩ := List.forall_mem_append.mp hchecks
    have hrow : ∀ rule ∈ f.rules ++ x.rules,
        (Row.ofNames under (f <*> x).names).lookup rule.name = (under rule.name).head? := by
      intro rule hrule
      rw [Row.lookup_ofNames, if_pos (name_mem_names hrule)]
    obtain ⟨hrowf, hrowx⟩ := List.forall_mem_append.mp hrow
    change (do
      let g ← f.build (.ofNames under (f <*> x).names)
      let a ← x.build (.ofNames under (f <*> x).names)
      return g a) = Except.ok b at hbuild
    rw [← hf.build_eq hrowf, ← hx.build_eq hrowx] at hbuild
    obtain ⟨g, hg, hbuild⟩ := bind_eq_ok_iff.mp hbuild
    obtain ⟨a, ha, hb⟩ := bind_eq_ok_iff.mp hbuild
    exact ⟨g, a, hf.takes_iff.mpr ⟨honcef, hchecksf, hg⟩,
      hx.takes_iff.mpr ⟨honcex, hchecksx, ha⟩, Except.ok.inj hb⟩
  · rintro ⟨g, a, hg, ha, rfl⟩
    exact hg.seq ha

section Objects

variable {rules : List FieldRule} {members : Members} {row : Row}

theorem rowOfMembers_spec (hwhole : ∀ rule ∈ rules, ∀ d, rule.check d = none → d.isWhole = true)
    (hnames : (rules.map (·.name)).Nodup) {seen : List String}
    (h : rowOfMembers rules seen members = .ok row) :
    members.isWhole = true ∧ members.isKeyed = true ∧ ∀ rule ∈ rules,
      (members.under rule.name).length ≤ 1 ∧
        (rule.name ∈ seen → members.under rule.name = []) ∧
        ∀ d ∈ members.under rule.name, rule.check d = none := by
  fun_induction rowOfMembers rules seen members generalizing row with
  | case1 => exact ⟨rfl, rfl, fun _ _ => ⟨Nat.zero_le _, fun _ => rfl, List.forall_mem_nil _⟩⟩
  | case2 => cases h
  | case3 => cases h
  | case4 seen key value rest hfind hvalue ih =>
    obtain ⟨hrest, hkeyed, hrules⟩ := ih h
    refine ⟨by rw [Members.isWhole, hvalue, hrest, Bool.and_self], hkeyed, fun rule hrule => ?_⟩
    have hname : rule.name ≠ key := by simpa using List.find?_eq_none.mp hfind rule hrule
    rw [Members.under_cons, if_neg (Ne.symm hname)]
    exact hrules rule hrule
  | case5 => cases h
  | case6 => cases h
  | case7 => cases h
  | case8 seen key value rest rule hfind hmem hcheck ih =>
    obtain ⟨hrule, rfl⟩ := name_of_find? hfind
    obtain ⟨tail, hrow, -⟩ := map_eq_ok_iff.mp h
    obtain ⟨hrest, hkeyed, hrules⟩ := ih hrow
    refine ⟨by rw [Members.isWhole, hwhole rule hrule value hcheck, hrest, Bool.and_self], hkeyed,
      fun other hother => ?_⟩
    obtain ⟨honce, hseen, hchecks⟩ := hrules other hother
    rw [Members.under_cons]
    by_cases heq : rule.name = other.name
    · obtain rfl := List.inj_on_of_nodup_map hnames hrule hother heq
      have hnone := hseen List.mem_cons_self
      rw [if_pos rfl, hnone]
      refine ⟨Nat.le_refl 1, fun hin => absurd hin hmem, fun d hd => ?_⟩
      rw [List.mem_singleton.mp hd]
      exact hcheck
    · rw [if_neg heq]
      exact ⟨honce, fun hin => hseen (List.mem_cons_of_mem _ hin), hchecks⟩

variable {fields : Fields α} {a : α}

theorem readMembers_eq_ok_iff (h : fields.Lawful) (hnames : fields.names.Nodup) :
    fields.readMembers members = .ok a ↔
      members.isWhole = true ∧ members.isKeyed = true ∧ fields.Takes members.under a := by
  constructor
  · intro hread
    obtain ⟨row, hrow, hbuild⟩ := bind_eq_ok_iff.mp hread
    obtain ⟨hwhole, hkeyed, hrules⟩ := rowOfMembers_spec h.whole hnames hrow
    have honce := fun rule hrule => (hrules rule hrule).1
    have hchecks := fun rule hrule => (hrules rule hrule).2.2
    obtain ⟨row', hrow', hlookup⟩ := exists_rowOfMembers hwhole hkeyed [] honce
      (fun _ _ hin => absurd hin List.not_mem_nil) hchecks
    obtain rfl := Except.ok.inj (hrow.symm.trans hrow')
    exact ⟨hwhole, hkeyed, h.takes_iff.mpr ⟨honce, hchecks, (h.build_eq hlookup).trans hbuild⟩⟩
  · rintro ⟨hwhole, hkeyed, htakes⟩
    exact htakes.readMembers hwhole hkeyed

end Objects

section Arrays

variable {rules : List FieldRule} {items : Items} {row : Row} {docs : List Doc}

def EndsFirmly (rules : List FieldRule) : Prop :=
  ∀ rule ∈ rules.getLast?, rule.mayTrail = false

theorem EndsFirmly.tail {rule : FieldRule} (h : EndsFirmly (rule :: rules)) : EndsFirmly rules := by
  intro last hlast
  cases rules with
  | nil => cases hlast
  | cons second rules =>
    refine h last ?_
    rwa [List.getLast?_cons_cons]

theorem rowOfItems_eq_ok_iff (hlast : EndsFirmly rules) :
    rowOfItems rules items = .ok row ↔ ∃ docs, items = .ofDocs docs ∧
      List.Forall₂ (fun rule d => rule.check d = none) rules docs ∧
      row = (rules.map (·.name)).zip docs := by
  induction rules generalizing items row with
  | nil =>
    constructor
    · intro h
      cases items with
      | done =>
        cases h
        exact ⟨[], rfl, .nil, rfl⟩
      | broken | cons => cases h
    · rintro ⟨docs, rfl, hchecks, rfl⟩
      cases hchecks
      rfl
  | cons rule rules ih =>
    constructor
    · intro h
      cases items with
      | broken => cases h
      | done =>
        -- some field after this one needs a value, and none is left
        rw [rowOfItems] at h
        split at h
        · next htrail =>
          obtain ⟨docs, hdocs, hchecks, -⟩ := (ih hlast.tail).mp h
          cases docs with
          | cons => cases hdocs
          | nil =>
            cases hchecks
            cases htrail.symm.trans (hlast rule rfl)
        · cases h
      | cons head rest =>
        rw [rowOfItems] at h
        split at h
        · cases h
        · next hcheck =>
          obtain ⟨tail, hrest, hrow⟩ := map_eq_ok_iff.mp h
          obtain ⟨docs, rfl, hchecks, rfl⟩ := (ih hlast.tail).mp hrest
          exact ⟨head :: docs, rfl, .cons hcheck hchecks, hrow.symm⟩
    · rintro ⟨docs, rfl, hchecks, rfl⟩
      cases hchecks with
      | cons hcheck hchecks =>
        have hrest := (ih hlast.tail).mpr ⟨_, rfl, hchecks, rfl⟩
        simp only [Items.ofDocs, rowOfItems, hcheck, hrest]
        rfl

theorem length_under_zip_le {names : List String} (hnames : names.Nodup) (name : String) :
    (Row.under (names.zip docs) name).length ≤ 1 := by
  induction names generalizing docs with
  | nil => exact Nat.zero_le 1
  | cons first names ih =>
    cases docs with
    | nil => exact Nat.zero_le 1
    | cons d docs =>
      rw [List.nodup_cons] at hnames
      rw [List.zip_cons_cons, Row.under_cons]
      split
      · next h =>
        have hnone : name ∉ (names.zip docs).map Prod.fst := by
          intro hmem
          obtain ⟨m, hm, hname⟩ := List.mem_map.mp hmem
          have hfirst : m.1 = first := hname.trans h.symm
          exact hnames.1 (hfirst ▸ (List.of_mem_zip hm).1)
        rw [Row.under_eq_nil hnone]
        exact Nat.le_refl 1
      · exact ih hnames.2

theorem forall₂_check_iff (hnames : (rules.map (·.name)).Nodup) (hlength : docs.length = rules.length) :
    List.Forall₂ (fun rule d => rule.check d = none) rules docs ↔
      ∀ rule ∈ rules, ∀ d ∈ Row.under ((rules.map (·.name)).zip docs) rule.name,
        rule.check d = none := by
  induction rules generalizing docs with
  | nil =>
    obtain rfl := List.length_eq_zero_iff.mp hlength
    exact iff_of_true .nil nofun
  | cons rule rules ih =>
    obtain ⟨d, docs, rfl⟩ := List.exists_cons_of_length_eq_add_one hlength
    rw [List.map_cons, List.nodup_cons] at hnames
    have hlength' : docs.length = rules.length := Nat.succ.inj hlength
    have hnone : Row.under ((rules.map (·.name)).zip docs) rule.name = [] := by
      apply Row.under_eq_nil
      rw [List.map_fst_zip (by simp [hlength'])]
      exact hnames.1
    have hother : ∀ other ∈ rules, rule.name ≠ other.name := by
      intro other hother heq
      exact hnames.1 (heq ▸ List.mem_map_of_mem hother)
    rw [List.forall₂_cons, ih hnames.2 hlength', List.forall_mem_cons]
    simp only [List.map_cons, List.zip_cons_cons, Row.under_cons, if_true, hnone,
      List.mem_singleton, forall_eq]
    refine and_congr_right fun _ => forall₂_congr fun other hmem => ?_
    rw [if_neg (hother other hmem)]

variable {fields : Fields α} {a : α}

theorem readItems_eq_ok_iff (h : fields.Lawful) (hnames : fields.names.Nodup)
    (hlast : EndsFirmly fields.rules) :
    fields.readItems items = .ok a ↔ ∃ docs, items = .ofDocs docs ∧
      docs.length = fields.names.length ∧ fields.Takes (Row.under (fields.names.zip docs)) a := by
  have hrow : ∀ docs : List Doc, ∀ rule ∈ fields.rules, (fields.names.zip docs).lookup rule.name =
      (Row.under (fields.names.zip docs) rule.name).head? :=
    fun docs rule _ => Row.lookup_eq_head? _ rule.name
  constructor
  · intro hread
    obtain ⟨row, hitems, hbuild⟩ := bind_eq_ok_iff.mp hread
    obtain ⟨docs, rfl, hchecks, rfl⟩ := (rowOfItems_eq_ok_iff hlast).mp hitems
    have hlength : docs.length = fields.rules.length := hchecks.length_eq.symm
    refine ⟨docs, rfl, hlength.trans (List.length_map _).symm, h.takes_iff.mpr ⟨?_, ?_, ?_⟩⟩
    · exact fun rule _ => length_under_zip_le hnames rule.name
    · exact (forall₂_check_iff hnames hlength).mp hchecks
    · exact (h.build_eq (hrow docs)).trans hbuild
  · rintro ⟨docs, rfl, hlength, htakes⟩
    have hlength' : docs.length = fields.rules.length := hlength.trans (List.length_map _)
    have hitems := (rowOfItems_eq_ok_iff hlast).mpr
      ⟨docs, rfl, (forall₂_check_iff hnames hlength').mpr htakes.checks, rfl⟩
    rw [readItems, hitems]
    exact htakes.build _ (hrow docs)

end Arrays

variable {fields : Fields α} {d : Doc} {a : α}

/-- A tree is read as a record exactly if it lays out a fitting value under every name that needs one. -/
theorem read_eq_ok_iff (h : fields.Lawful) (hnames : fields.names.Nodup)
    (hlast : EndsFirmly fields.rules) :
    fields.read d = .ok a ↔ ∃ under, d.LaysOut fields.names under ∧ fields.Takes under a := by
  constructor
  · intro hread
    cases d with
    | obj members =>
      obtain ⟨hwhole, hkeyed, htakes⟩ := (readMembers_eq_ok_iff h hnames).mp hread
      exact ⟨_, .object members hwhole hkeyed, htakes⟩
    | arr items =>
      obtain ⟨docs, rfl, hlength, htakes⟩ := (readItems_eq_ok_iff h hnames hlast).mp hread
      exact ⟨_, .array docs hlength, htakes⟩
    | broken | null | bool | num | str => cases hread
  · rintro ⟨under, hlays, htakes⟩
    cases hlays with
    | object members hwhole hkeyed => exact htakes.readMembers hwhole hkeyed
    | array docs hlength =>
      exact (readItems_eq_ok_iff h hnames hlast).mpr ⟨docs, rfl, hlength, htakes⟩

end Fields

end MempoolGate.Json
