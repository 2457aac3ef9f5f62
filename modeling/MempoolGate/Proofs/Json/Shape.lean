import MempoolGate.Proofs.Chain.Spelling
import MempoolGate.Proofs.Json.Reading

namespace MempoolGate.Json

open Text

variable {α β : Type}

/-- The reader takes exactly the trees that `R` relates to a value, among them none that is null or
broken. -/
structure Reader.Reads (r : Reader α) (R : Doc → α → Prop) : Prop where
  iff : ∀ d a, r d = .ok a ↔ R d a
  whole : r.TakesWhole
  notNull : ∀ a, ¬R .null a

def Single (R : Doc → α → Prop) (docs : List Doc) (a : α) : Prop :=
  ∃ d, docs = [d] ∧ R d a

inductive Given (R : Doc → α → Prop) : List Doc → Option α → Prop
  | absent : Given R [] none
  | null : Given R [.null] none
  | value {d : Doc} {a : α} (h : R d a) : Given R [d] (some a)

inductive GivenOr (fallback : α) (R : Doc → α → Prop) : List Doc → α → Prop
  | absent : GivenOr fallback R [] fallback
  | value {d : Doc} {a : α} (h : R d a) : GivenOr fallback R [d] a

def IsText (d : Doc) (s : String) : Prop :=
  d = .str (some s)

def IsValue (depth : Nat) (d : Doc) (v : Value) : Prop :=
  d ≠ .null ∧ d.value depth = .ok v

def IsInteger (d : Doc) (i : Int) : Prop :=
  ∃ n : Numeral, d = .num n ∧ n.value? = some (.whole i)

def IsBytes (d : Doc) (bytes : List UInt8) : Prop :=
  (∃ s, IsText d s ∧ SpellsBytes bytes s.toList) ∨
    ∃ docs, d = .arr (.ofDocs docs) ∧ List.Forall₂ (fun d b => IsInteger d b.toNat) docs bytes

mutual

theorem Doc.isWhole_of_value {depth : Nat} :
    ∀ {d : Doc} {v : Value}, d.value depth = .ok v → d.isWhole = true
  | .null, _, _ | .bool _, _, _ | .num _, _, _ | .str _, _, _ => rfl
  | .arr items, v, h => by
    rw [Doc.value] at h
    split at h
    · cases h
    · obtain ⟨vs, hvs, -⟩ := map_eq_ok_iff.mp h
      exact Items.isWhole_of_values hvs
  | .obj members, v, h => by
    rw [Doc.value] at h
    split at h
    · cases h
    · obtain ⟨vs, hvs, -⟩ := map_eq_ok_iff.mp h
      exact Members.isWhole_of_values hvs

theorem Items.isWhole_of_values {depth : Nat} :
    ∀ {items : Items} {vs : List Value}, items.values depth = .ok vs → items.isWhole = true
  | .done, _, _ => rfl
  | .cons head rest, vs, h => by
    obtain ⟨v, hv, h⟩ := bind_eq_ok_iff.mp h
    obtain ⟨more, hmore, -⟩ := bind_eq_ok_iff.mp h
    rw [Items.isWhole, Doc.isWhole_of_value hv, Items.isWhole_of_values hmore, Bool.and_self]

theorem Members.isWhole_of_values {depth : Nat} :
    ∀ {members : Members} {vs : List (String × Value)},
      members.values depth = .ok vs → members.isWhole = true
  | .done, _, _ => rfl
  | .cons (some key) value rest, vs, h => by
    obtain ⟨v, hv, h⟩ := bind_eq_ok_iff.mp h
    obtain ⟨more, hmore, -⟩ := bind_eq_ok_iff.mp h
    rw [Members.isWhole, Doc.isWhole_of_value hv, Members.isWhole_of_values hmore, Bool.and_self]

end

namespace Reader

variable {d : Doc}

theorem textBy_eq_ok_iff {f : String → Option α} {a : α} :
    textBy f d = .ok a ↔ ∃ s, IsText d s ∧ f s = some a := by
  constructor
  · intro h
    unfold textBy at h
    split at h
    · next s =>
      split at h
      · next b hb =>
        cases h
        exact ⟨s, rfl, hb⟩
      · cases h
    · cases h
  · rintro ⟨s, rfl, ha⟩
    simp only [textBy, ha]

theorem integerBy_eq_ok_iff {f : Int → Option α} {a : α} :
    integerBy f d = .ok a ↔ ∃ i, IsInteger d i ∧ f i = some a := by
  constructor
  · intro h
    unfold integerBy at h
    split at h
    · next n =>
      split at h
      · next i hi =>
        split at h
        · next b hb =>
          cases h
          exact ⟨i, ⟨n, rfl, hi⟩, hb⟩
        · cases h
      · cases h
      · cases h
    · cases h
  · rintro ⟨i, ⟨n, rfl, hi⟩, ha⟩
    simp only [integerBy, hi, ha]

theorem signed_eq_ok_iff {n : Int64} : signed d = .ok n ↔ IsInteger d n.toInt := by
  rw [signed, integerBy_eq_ok_iff]
  constructor
  · rintro ⟨i, hi, hn⟩
    obtain ⟨⟨hlow, hhigh⟩, hsome⟩ := Option.ite_none_right_eq_some.mp hn
    cases hsome
    rwa [Int64.toInt_ofInt_of_le hlow hhigh]
  · intro h
    exact ⟨n.toInt, h, by rw [if_pos ⟨n.le_toInt, n.toInt_lt⟩, Int64.ofInt_toInt]⟩

theorem byte_eq_ok_iff {b : UInt8} : byte d = .ok b ↔ IsInteger d b.toNat := by
  rw [byte, integerBy_eq_ok_iff]
  constructor
  · rintro ⟨i, hi, hb⟩
    obtain ⟨⟨hlow, hhigh⟩, hsome⟩ := Option.ite_none_right_eq_some.mp hb
    cases hsome
    rwa [UInt8.toNat_ofNat_of_lt' hhigh, Int.toNat_of_nonneg hlow]
  · intro h
    refine ⟨b.toNat, h, ?_⟩
    rw [Int.toNat_natCast, if_pos ⟨Int.natCast_nonneg _, b.toNat_lt_size⟩, UInt8.ofNat_toNat]

theorem read_items_eq_ok_iff {r : Reader α} {R : Doc → α → Prop}
    (h : ∀ d a, r d = .ok a ↔ R d a) {items : Items} {as : List α} :
    items.read r = .ok as ↔ ∃ docs, items = .ofDocs docs ∧ List.Forall₂ R docs as := by
  fun_induction Items.read r items generalizing as with
  | case1 =>
    constructor
    · intro hread
      cases hread
      exact ⟨[], rfl, .nil⟩
    · rintro ⟨docs, hdocs, hall⟩
      cases hall with
      | nil => rfl
      | cons => cases hdocs
  | case2 =>
    refine iff_of_false nofun ?_
    rintro ⟨docs, hdocs, -⟩
    cases docs <;> cases hdocs
  | case3 head rest ih =>
    constructor
    · intro hread
      obtain ⟨a, hhead, hread⟩ := bind_eq_ok_iff.mp hread
      obtain ⟨more, hrest, hread⟩ := bind_eq_ok_iff.mp hread
      cases hread
      obtain ⟨docs, rfl, hall⟩ := ih.mp hrest
      exact ⟨head :: docs, rfl, .cons ((h head a).mp hhead) hall⟩
    · rintro ⟨docs, hdocs, hall⟩
      cases hall with
      | nil => cases hdocs
      | cons hR hall =>
        cases hdocs
        rw [(h _ _).mpr hR, ih.mpr ⟨_, rfl, hall⟩]
        rfl

theorem bytes_eq_ok_iff {bytes : List UInt8} : Reader.bytes d = .ok bytes ↔ IsBytes d bytes := by
  have htext : textBy hexBytes? d = .ok bytes ↔ ∃ s, IsText d s ∧ SpellsBytes bytes s.toList := by
    simp only [textBy_eq_ok_iff, hexBytes?_eq_some_iff]
  have hitems : ∀ items : Items, items.read byte = .ok bytes ↔ ∃ docs, items = .ofDocs docs ∧
      List.Forall₂ (fun d b => IsInteger d b.toNat) docs bytes :=
    fun _ => read_items_eq_ok_iff fun _ _ => byte_eq_ok_iff
  cases d with
  | arr items =>
    rw [Reader.bytes, hitems, IsBytes]
    constructor
    · rintro ⟨docs, rfl, hall⟩
      exact .inr ⟨docs, rfl, hall⟩
    · rintro (⟨s, hs, -⟩ | ⟨docs, hdocs, hall⟩)
      · cases hs
      · cases hdocs
        exact ⟨docs, rfl, hall⟩
  | broken | null | bool | num | str | obj =>
    refine htext.trans (or_iff_left ?_).symm
    rintro ⟨docs, hdocs, -⟩
    cases hdocs

theorem isWhole_of_isInteger {i : Int} (h : IsInteger d i) : d.isWhole = true := by
  obtain ⟨n, rfl, -⟩ := h
  rfl

theorem isWhole_of_isBytes {bytes : List UInt8} (h : IsBytes d bytes) : d.isWhole = true := by
  rcases h with ⟨s, rfl, -⟩ | ⟨docs, rfl, hall⟩
  · rfl
  · refine Items.isWhole_ofDocs.mpr fun d hd => ?_
    obtain ⟨b, -, hb⟩ := exists_of_forall₂ hall.flip hd
    exact isWhole_of_isInteger hb

theorem reads_text : text.Reads IsText where
  iff d s := by
    constructor
    · intro h
      unfold text at h
      split at h
      · cases h
        rfl
      · cases h
    · rintro rfl
      rfl
  whole d s h := by
    unfold text at h
    split at h
    · rfl
    · cases h
  notNull s := nofun

theorem reads_signed : signed.Reads fun d n => IsInteger d n.toInt where
  iff _ _ := signed_eq_ok_iff
  whole _ _ h := isWhole_of_isInteger (signed_eq_ok_iff.mp h)
  notNull n := by
    rintro ⟨_, h, -⟩
    cases h

theorem reads_bytes : Reader.bytes.Reads IsBytes where
  iff _ _ := bytes_eq_ok_iff
  whole _ _ h := isWhole_of_isBytes (bytes_eq_ok_iff.mp h)
  notNull bytes := by
    rintro (⟨s, h, -⟩ | ⟨docs, h, -⟩) <;> cases h

theorem fixedBytes_eq_ok_iff {n : Nat} {x : FixedBytes n} :
    fixedBytes n d = .ok x ↔ IsBytes d x.bytes := by
  rw [← bytes_eq_ok_iff, fixedBytes]
  cases Reader.bytes d with
  | error e => exact iff_of_false nofun nofun
  | ok bytes =>
    simp only [bind, Except.bind, FixedBytes.ofBytes?]
    by_cases hlength : bytes.length = n
    · simp only [dif_pos hlength]
      constructor
      · intro h
        cases h
        rfl
      · intro h
        cases h
        rfl
    · simp only [dif_neg hlength]
      refine iff_of_false nofun fun h => hlength ?_
      rw [Except.ok.inj h]
      exact x.length_eq

theorem reads_fixedBytes (n : Nat) : (fixedBytes n).Reads fun d x => IsBytes d x.bytes where
  iff _ _ := fixedBytes_eq_ok_iff
  whole _ _ h := isWhole_of_isBytes (fixedBytes_eq_ok_iff.mp h)
  notNull x := reads_bytes.notNull x.bytes

def nonNull (r : Reader α) : Reader α
  | .null => .error .unfit
  | d => r d

theorem nullable_nonNull (r : Reader α) : r.nonNull.nullable = r.nullable := by
  funext d
  cases d <;> rfl

theorem reads_value (depth : Nat) : (nonNull (Doc.value depth)).Reads (IsValue depth) where
  iff d v := by
    cases d with
    | null => exact iff_of_false nofun fun h => h.1 rfl
    | broken | bool | num | str | arr | obj => exact (and_iff_right nofun).symm
  whole d v h := by
    cases d with
    | null => cases h
    | broken | bool | num | str | arr | obj =>
      change Doc.value depth _ = .ok v at h
      exact Doc.isWhole_of_value h
  notNull v h := h.1 rfl

variable {r : Reader α} {R : Doc → α → Prop}

theorem nullable_eq_ok_iff (h : r.Reads R) {o : Option α} : r.nullable d = .ok o ↔ Given R [d] o := by
  constructor
  · intro hread
    unfold Reader.nullable at hread
    split at hread
    · cases hread
      exact .null
    · obtain ⟨a, ha, rfl⟩ := map_eq_ok_iff.mp hread
      exact .value ((h.iff d a).mp ha)
  · intro hgiven
    cases hgiven with
    | null => rfl
    | value hR =>
      unfold Reader.nullable
      split
      · exact absurd hR (h.notNull _)
      · rw [(h.iff d _).mpr hR]
        rfl

theorem TakesWhole.nullable (h : r.TakesWhole) : r.nullable.TakesWhole := by
  intro d o hread
  unfold Reader.nullable at hread
  split at hread
  · rfl
  · obtain ⟨a, ha, -⟩ := map_eq_ok_iff.mp hread
    exact h d a ha

theorem nullable_nullable (d : Doc) : r.nullable.nullable d = (r.nullable d).map (·.map some) := by
  cases d with
  | null => rfl
  | broken | bool | num | str | arr | obj =>
    change ((r _).map some).map some = ((r _).map some).map _
    cases r _ <;> rfl

end Reader

namespace Fields

variable {under : String → List Doc} {name : String} {r : Reader α} {R : Doc → α → Prop}

theorem takes_required_iff (h : r.Reads R) {a : α} :
    (required name r).Takes under a ↔ Single R (under name) a := by
  rw [required, takes_one_iff]
  simp only [reduceCtorEq, and_false, false_or, h.iff]
  rfl

theorem takes_defaulted_iff (h : r.Reads R) {fallback a : α} :
    (defaulted name r fallback).Takes under a ↔ GivenOr fallback R (under name) a := by
  rw [defaulted, takes_one_iff]
  simp only [h.iff]
  constructor
  · rintro (⟨hnone, habsent⟩ | ⟨d, hd, ha⟩)
    · cases habsent
      rw [hnone]
      exact .absent
    · rw [hd]
      exact .value ha
  · generalize under name = docs
    rintro (_ | ha)
    · exact .inl ⟨rfl, rfl⟩
    · exact .inr ⟨_, rfl, ha⟩

theorem takes_nullable_iff (h : r.Reads R) {o : Option α} :
    (nullable name r).Takes under o ↔ Given R (under name) o := by
  rw [nullable, takes_one_iff]
  simp only [Reader.nullable_eq_ok_iff h]
  constructor
  · rintro (⟨hnone, habsent⟩ | ⟨d, hd, hgiven⟩)
    · cases habsent
      rw [hnone]
      exact .absent
    · rw [hd]
      exact hgiven
  · generalize under name = docs
    rintro (_ | _ | hR)
    · exact .inl ⟨rfl, rfl⟩
    · exact .inr ⟨_, rfl, .null⟩
    · exact .inr ⟨_, rfl, .value hR⟩

theorem takes_nullable_nullable_iff {o : Option (Option α)} :
    (nullable name r.nullable).Takes under o ↔
      ∃ o', (nullable name r).Takes under o' ∧ o = o'.map some := by
  simp only [nullable, takes_one_iff, Reader.nullable_nullable]
  constructor
  · rintro (⟨hnone, habsent⟩ | ⟨d, hd, hread⟩)
    · cases habsent
      exact ⟨none, .inl ⟨hnone, rfl⟩, rfl⟩
    · obtain ⟨o', ho', rfl⟩ := map_eq_ok_iff.mp hread
      exact ⟨o', .inr ⟨d, hd, ho'⟩, rfl⟩
  · rintro ⟨o', ⟨hnone, habsent⟩ | ⟨d, hd, hread⟩, rfl⟩
    · cases habsent
      exact .inl ⟨hnone, rfl⟩
    · refine .inr ⟨d, hd, ?_⟩
      rw [hread]
      rfl

/-- The fields make exactly the records that `P` relates to what stands under their names. -/
structure Exact (fields : Fields α) (P : (String → List Doc) → α → Prop) : Prop where
  lawful : fields.Lawful
  takes : ∀ under a, fields.Takes under a ↔ P under a

theorem exact_required (name : String) (h : r.Reads R) :
    (required name r).Exact fun under a => Single R (under name) a :=
  ⟨lawful_one h.whole false _, fun _ _ => takes_required_iff h⟩

theorem exact_defaulted (name : String) (h : r.Reads R) (fallback : α) :
    (defaulted name r fallback).Exact fun under a => GivenOr fallback R (under name) a :=
  ⟨lawful_one h.whole true _, fun _ _ => takes_defaulted_iff h⟩

theorem exact_nullable (name : String) (h : r.Reads R) :
    (nullable name r).Exact fun under o => Given R (under name) o :=
  ⟨lawful_one h.whole.nullable false _, fun _ _ => takes_nullable_iff h⟩

theorem exact_nullable_nullable (name : String) (h : r.Reads R) :
    (nullable name r.nullable).Exact fun under o =>
      ∃ o', Given R (under name) o' ∧ o = o'.map some := by
  refine ⟨lawful_one h.whole.nullable.nullable false _, fun under o => ?_⟩
  rw [takes_nullable_nullable_iff]
  simp only [takes_nullable_iff h]

variable {P : (String → List Doc) → α → Prop}

theorem Exact.map {x : Fields α} (h : x.Exact P) (f : α → β) :
    (f <$> x).Exact fun under b => ∃ a, P under a ∧ f a = b := by
  refine ⟨h.lawful.map f, fun under b => ?_⟩
  simp only [takes_map_iff h.lawful, h.takes]

theorem Exact.seq {f : Fields (α → β)} {x : Fields α} {Q : (String → List Doc) → (α → β) → Prop}
    (hf : f.Exact Q) (hx : x.Exact P) :
    (f <*> x).Exact fun under b => ∃ g a, Q under g ∧ P under a ∧ g a = b := by
  refine ⟨hf.lawful.seq hx.lawful, fun under b => ?_⟩
  simp only [takes_seq_iff hf.lawful hx.lawful, hf.takes, hx.takes]

theorem Exact.congr {fields : Fields α} {Q : (String → List Doc) → α → Prop} (h : fields.Exact P)
    (hiff : ∀ under a, P under a ↔ Q under a) : fields.Exact Q :=
  ⟨h.lawful, fun under a => (h.takes under a).trans (hiff under a)⟩

theorem Exact.reads {fields : Fields α} (h : fields.Exact P) (hnames : fields.names.Nodup)
    (hlast : EndsFirmly fields.rules) :
    Reader.Reads fields.read fun d a => ∃ under, d.LaysOut fields.names under ∧ P under a where
  iff d a := by
    rw [read_eq_ok_iff h.lawful hnames hlast]
    simp only [h.takes]
  whole d a hread := by
    obtain ⟨under, hlays, htakes⟩ := (read_eq_ok_iff h.lawful hnames hlast).mp hread
    cases hlays with
    | object members whole keyed => exact whole
    | array docs hlength =>
      have hchecks := (forall₂_check_iff hnames (hlength.trans (List.length_map _))).mpr htakes.checks
      refine Items.isWhole_ofDocs.mpr fun d hd => ?_
      obtain ⟨rule, hrule, hcheck⟩ := exists_of_forall₂ hchecks hd
      exact h.lawful.whole rule hrule d hcheck
  notNull a := by
    rintro ⟨under, hlays, -⟩
    cases hlays

end Fields

end MempoolGate.Json
