import Mathlib.Data.List.Forall2
import MempoolGate.Json.Decode
import MempoolGate.Proofs.Json.Document

namespace MempoolGate.Json

variable {α β : Type}

theorem Members.extract_of_notMem {key : String} {ms : List (String × Plain)}
    (h : key ∉ ms.map Prod.fst) : (ofPlain ms).extract key = ([], ofPlain ms) := by
  induction ms with
  | nil => rfl
  | cons m ms ih =>
    rw [List.map_cons, List.mem_cons, not_or] at h
    rw [ofPlain, extract, ih h.2]
    simp [Ne.symm h.1]

theorem Doc.tagged_ofPlain (kind : String) {ms : List (String × Plain)} (hfits : ∀ m ∈ ms, m.2.Fits)
    (hkeys : "type" ∉ ms.map Prod.fst) :
    (Doc.obj (.ofPlain (("type", .str kind) :: ms))).tagged = .ok (kind, .members (.ofPlain ms)) := by
  have hall : ∀ m ∈ ("type", Plain.str kind) :: ms, m.2.Fits :=
    List.forall_mem_cons.mpr ⟨trivial, hfits⟩
  obtain ⟨value, hvalue⟩ := Doc.exists_value hall
  have hextract : (Members.ofPlain (("type", .str kind) :: ms)).extract "type" =
      ([.str (some kind)], .ofPlain ms) := by
    rw [Members.ofPlain, Members.extract, Members.extract_of_notMem hkeys]
    rfl
  rw [Doc.tagged, hvalue]
  simp only [bind, Except.bind, hextract]
  rfl

theorem Reader.text_str (s : String) : text (.str (some s)) = .ok s :=
  rfl

theorem Reader.integerBy_numeralOf {n : Int} {f : Int → Option α} {a : α}
    (hfits : (Plain.int n).Fits) (hf : f n = some a) : integerBy f (Plain.int n).doc = .ok a := by
  rw [Plain.doc, integerBy, value?_numeralOf hfits.1 hfits.2]
  simp only [hf]

theorem Plain.fits_word (n : UInt64) : (Plain.int n.toNat).Fits := by
  have hlt := n.toNat_lt_size
  exact ⟨by omega, Int.ofNat_lt.mpr hlt⟩

theorem Plain.fits_byte (n : UInt8) : (Plain.int n.toNat).Fits := by
  have hlt := n.toNat_lt_size
  have hsize : UInt8.size < UInt64.size := by decide
  exact ⟨by omega, Int.ofNat_lt.mpr (Nat.lt_trans hlt hsize)⟩

theorem Plain.fits_signed (n : Int64) : (Plain.int n.toInt).Fits := by
  have hlow := n.le_toInt
  have hhigh := n.toInt_lt
  have hsize : UInt64.size = 0x10000000000000000 := rfl
  exact ⟨hlow, by omega⟩

theorem Reader.word_written (n : UInt64) : word (Plain.int n.toNat).doc = .ok n := by
  apply integerBy_numeralOf (Plain.fits_word n)
  rw [Int.toNat_natCast, if_pos ⟨Int.natCast_nonneg _, n.toNat_lt_size⟩, UInt64.ofNat_toNat]

theorem Reader.byte_written (n : UInt8) : byte (Plain.int n.toNat).doc = .ok n := by
  apply integerBy_numeralOf (Plain.fits_byte n)
  rw [Int.toNat_natCast, if_pos ⟨Int.natCast_nonneg _, n.toNat_lt_size⟩, UInt8.ofNat_toNat]

theorem Reader.signed_written (n : Int64) : signed (Plain.int n.toInt).doc = .ok n := by
  apply integerBy_numeralOf (Plain.fits_signed n)
  rw [if_pos ⟨n.le_toInt, n.toInt_lt⟩, Int64.ofInt_toInt]

theorem Items.read_ofTexts (items : List String) : (ofTexts items).read Reader.text = .ok items := by
  induction items with
  | nil => rfl
  | cons s items ih =>
    rw [ofTexts, read, Reader.text_str, ih]
    rfl

theorem Reader.list_written (items : List String) : list text (Plain.list items).doc = .ok items :=
  Items.read_ofTexts items

namespace Fields

/-- The members are what the fields ask for, one after another, and a row that has their values makes
the record `a`. -/
structure Accepts (fields : Fields α) (ms : List (String × Plain)) (a : α) : Prop where
  rules : List.Forall₂ (fun rule m => rule.name = m.1 ∧ rule.check m.2.doc = none) fields.rules ms
  build : ∀ row : Row, (∀ m ∈ ms, row.lookup m.1 = some m.2.doc) → fields.build row = .ok a

theorem accepts_one {name : String} {r : Reader α} {v : Plain} {a : α} (h : r v.doc = .ok a)
    (mayTrail : Bool) (absent : Except Fault α) :
    (one name r mayTrail absent).Accepts [(name, v)] a := by
  constructor
  · exact .cons ⟨rfl, by simp only [faultOf, h]⟩ .nil
  · intro row hrow
    rw [one, List.forall_mem_singleton] at *
    simp only [hrow, h]

theorem accepts_required (name : String) {r : Reader α} {v : Plain} {a : α} (h : r v.doc = .ok a) :
    (required name r).Accepts [(name, v)] a :=
  accepts_one h false (.error .unfit)

theorem accepts_text (name s : String) : (required name .text).Accepts [(name, .str s)] s :=
  accepts_required name (Reader.text_str s)

theorem accepts_word (name : String) (n : UInt64) :
    (required name .word).Accepts [(name, .int n.toNat)] n :=
  accepts_required name (Reader.word_written n)

theorem Accepts.map {x : Fields α} {ms : List (String × Plain)} {a : α} (h : x.Accepts ms a)
    (f : α → β) : (f <$> x).Accepts ms (f a) := by
  constructor
  · exact h.rules
  · intro row hrow
    change (do let b ← x.build row; return f b) = Except.ok (f a)
    rw [h.build row hrow]
    rfl

theorem Accepts.seq {f : Fields (α → β)} {x : Fields α} {g : α → β} {a : α}
    {ms ms' : List (String × Plain)} (hf : f.Accepts ms g) (hx : x.Accepts ms' a) :
    (f <*> x).Accepts (ms ++ ms') (g a) := by
  constructor
  · exact List.rel_append hf.rules hx.rules
  · intro row hrow
    rw [List.forall_mem_append] at hrow
    change (do let g ← f.build row; let b ← x.build row; return g b) = Except.ok (g a)
    rw [hf.build row hrow.1, hx.build row hrow.2]
    rfl

theorem exists_rule {rules : List FieldRule} {ms : List (String × Plain)}
    (h : List.Forall₂ (fun rule m => rule.name = m.1 ∧ rule.check m.2.doc = none) rules ms)
    (hkeys : (ms.map Prod.fst).Nodup) : ∀ m ∈ ms, ∃ rule,
      rules.find? (·.name = m.1) = some rule ∧ rule.check m.2.doc = none := by
  induction h with
  | nil => exact fun m hm => absurd hm List.not_mem_nil
  | @cons rule m rules ms hrule _ ih =>
    rw [List.map_cons, List.nodup_cons] at hkeys
    rw [List.forall_mem_cons]
    refine ⟨⟨rule, List.find?_cons_of_pos (by simpa using hrule.1), hrule.2⟩, fun n hn => ?_⟩
    obtain ⟨other, hfind, hcheck⟩ := ih hkeys.2 n hn
    have hne : rule.name ≠ n.1 := by
      rw [hrule.1]
      intro heq
      exact hkeys.1 (heq ▸ List.mem_map_of_mem hn)
    exact ⟨other, by rw [List.find?_cons_of_neg (by simpa using hne), hfind], hcheck⟩

theorem rowOfMembers_ofPlain {rules : List FieldRule} {ms : List (String × Plain)}
    (hrules : ∀ m ∈ ms, ∃ rule, rules.find? (·.name = m.1) = some rule ∧ rule.check m.2.doc = none)
    (hkeys : (ms.map Prod.fst).Nodup) (seen : List String) (hseen : ∀ m ∈ ms, m.1 ∉ seen) :
    rowOfMembers rules seen (.ofPlain ms) = .ok (ms.map fun m => (m.1, m.2.doc)) := by
  induction ms generalizing seen with
  | nil => rfl
  | cons m ms ih =>
    rw [List.forall_mem_cons] at hrules hseen
    rw [List.map_cons, List.nodup_cons] at hkeys
    obtain ⟨rule, hfind, hcheck⟩ := hrules.1
    have hmore : ∀ n ∈ ms, n.1 ∉ m.1 :: seen := by
      intro n hn
      rw [List.mem_cons, not_or]
      exact ⟨fun heq => hkeys.1 (heq ▸ List.mem_map_of_mem hn), hseen.2 n hn⟩
    rw [Members.ofPlain, rowOfMembers, hfind]
    simp only [if_neg hseen.1, hcheck, ih hrules.2 hkeys.2 (m.1 :: seen) hmore]
    rfl

theorem lookup_of_mem {ms : List (String × Plain)} (hkeys : (ms.map Prod.fst).Nodup) :
    ∀ m ∈ ms, (ms.map fun m => (m.1, m.2.doc)).lookup m.1 = some m.2.doc := by
  induction ms with
  | nil => exact fun m hm => absurd hm List.not_mem_nil
  | cons m ms ih =>
    rw [List.map_cons, List.nodup_cons] at hkeys
    rw [List.forall_mem_cons, List.map_cons]
    refine ⟨List.lookup_cons_self, fun n hn => ?_⟩
    have hne : n.1 ≠ m.1 := fun heq => hkeys.1 (heq ▸ List.mem_map_of_mem hn)
    rw [List.lookup_cons, beq_false_of_ne hne]
    exact ih hkeys.2 n hn

theorem Accepts.readMembers {fields : Fields α} {ms : List (String × Plain)} {a : α}
    (h : fields.Accepts ms a) (hkeys : (ms.map Prod.fst).Nodup) :
    fields.readMembers (.ofPlain ms) = .ok a := by
  have hrow := rowOfMembers_ofPlain (exists_rule h.rules hkeys) hkeys [] fun _ _ => List.not_mem_nil
  rw [Fields.readMembers, hrow]
  exact h.build _ (lookup_of_mem hkeys)

end Fields

end MempoolGate.Json
