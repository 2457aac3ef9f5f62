import MempoolGate.Json.Value
import MempoolGate.Proofs.Json.Numeral
import MempoolGate.Proofs.Json.Text

namespace MempoolGate.Json

def Items.ofTexts : List String → Items
  | [] => .done
  | s :: rest => .cons (.str (some s)) (ofTexts rest)

def Plain.doc : Plain → Doc
  | .null => .null
  | .int n => .num (numeralOf n)
  | .str s => .str (some s)
  | .list items => .arr (.ofTexts items)

def Members.ofPlain : List (String × Plain) → Members
  | [] => .done
  | (key, v) :: rest => .cons (some key) v.doc (ofPlain rest)

def Plain.Fits : Plain → Prop
  | .int n => -0x8000000000000000 ≤ n ∧ n < UInt64.size
  | .null | .str _ | .list _ => True

theorem skipSpace_ends {rest : List Char} (h : Ends rest) : skipSpace rest = rest := by
  cases h <;> rfl

theorem scanString?_writeString (s : String) (rest : List Char) :
    ∃ cs, writeString s ++ rest = '"' :: cs ∧ scanString? cs = some (some s, rest) := by
  refine ⟨s.toList.flatMap escapeChar ++ '"' :: rest, ?_, scanString?_written s rest⟩
  simp [writeString]

theorem scanValue_writeString (s : String) (rest : List Char) (fuel : Nat) :
    scanValue (fuel + 1) (writeString s ++ rest) = (.str (some s), some rest) := by
  obtain ⟨cs, hcs, hscan⟩ := scanString?_writeString s rest
  have hskip : skipSpace ('"' :: cs) = '"' :: cs := rfl
  rw [hcs, scanValue, hskip]
  simp only [hscan]

theorem numeralHead_ne : ∀ d < 10, Nat.digitChar d ∉ ['\x7b', '[', '"', 't', 'f', 'n', ' ', '\n', '\t', '\r'] := by
  decide

theorem exists_writeInt_eq_cons (n : Int) : ∃ c cs, writeInt n = c :: cs ∧
    c ∉ ['\x7b', '[', '"', 't', 'f', 'n', ' ', '\n', '\t', '\r'] := by
  unfold writeInt
  split
  · exact ⟨'-', _, rfl, by decide⟩
  · obtain ⟨d, cs, hd, hdigits⟩ := toDigits_eq_cons n.natAbs
    exact ⟨_, cs, hdigits, numeralHead_ne d hd⟩

theorem scanValue_writeInt (n : Int) {rest : List Char} (h : Ends rest) (fuel : Nat) :
    scanValue (fuel + 1) (writeInt n ++ rest) = (.num (numeralOf n), some rest) := by
  have hscan := scanNumeral?_written n h
  obtain ⟨c, cs, hcs, hhead⟩ := exists_writeInt_eq_cons n
  rw [hcs, List.cons_append] at hscan ⊢
  have hskip : skipSpace (c :: (cs ++ rest)) = c :: (cs ++ rest) := by
    apply List.dropWhile_cons_of_neg
    simp only [List.mem_cons, not_or] at hhead
    simp [isSpace, hhead]
  rw [scanValue, hskip]
  simp only [List.mem_cons, not_or] at hhead
  split
  · next heq => exact absurd (List.cons.inj heq).1 hhead.1
  · next heq => exact absurd (List.cons.inj heq).1 hhead.2.1
  · next heq => exact absurd (List.cons.inj heq).1 hhead.2.2.1
  · next heq => exact absurd (List.cons.inj heq).1 hhead.2.2.2.1
  · next heq => exact absurd (List.cons.inj heq).1 hhead.2.2.2.2.1
  · next heq => exact absurd (List.cons.inj heq).1 hhead.2.2.2.2.2.1
  · rw [hscan]

theorem length_writeString (s : String) : 2 ≤ (writeString s).length := by
  simp [writeString]

theorem intercalate_comma_cons (part next : List Char) (parts : List (List Char)) (rest : List Char) :
    [','].intercalate (part :: next :: parts) ++ rest =
      part ++ (',' :: ([','].intercalate (next :: parts) ++ rest)) := by
  simp

theorem exists_intercalate_eq_cons (c : Char) (part : List Char) (parts : List (List Char))
    (rest : List Char) : ∃ cs, [','].intercalate ((c :: part) :: parts) ++ rest = c :: cs := by
  cases parts with
  | nil => exact ⟨part ++ rest, by simp⟩
  | cons next parts => exact ⟨_, intercalate_comma_cons (c :: part) next parts rest⟩

theorem scanItems_written (items : List String) (hitems : items ≠ []) (rest : List Char) (fuel : Nat)
    (hfuel : ([','].intercalate (items.map writeString) ++ ']' :: rest).length < fuel) :
    scanItems fuel ([','].intercalate (items.map writeString) ++ ']' :: rest) =
      (.ofTexts items, some rest) := by
  induction items generalizing fuel with
  | nil => exact absurd rfl hitems
  | cons s items ih =>
    have hlength := length_writeString s
    cases items with
    | nil =>
      rw [List.map_cons, List.map_nil, List.intercalate_singleton] at hfuel ⊢
      rw [List.length_append] at hfuel
      obtain ⟨fuel, rfl⟩ : ∃ k, fuel = k + 2 := ⟨fuel - 2, by omega⟩
      rw [scanItems, scanValue_writeString]
      simp only [skipSpace_ends (.bracket rest)]
      rfl
    | cons t items =>
      have hmore := ih (List.cons_ne_nil t items)
      rw [List.map_cons] at hmore
      rw [List.map_cons, List.map_cons, intercalate_comma_cons] at hfuel ⊢
      rw [List.length_append, List.length_cons] at hfuel
      obtain ⟨fuel, rfl⟩ : ∃ k, fuel = k + 2 := ⟨fuel - 2, by omega⟩
      rw [scanItems, scanValue_writeString]
      simp only [skipSpace_ends (.comma _), hmore (fuel + 1) (by omega)]
      rfl

theorem scanValue_bracket (fuel : Nat) (cs : List Char) :
    scanValue (fuel + 1) ('[' :: '"' :: cs) =
      (.arr (scanItems fuel ('"' :: cs)).1, (scanItems fuel ('"' :: cs)).2) := by
  rw [scanValue]
  rfl

theorem scanValue_brace (fuel : Nat) (cs : List Char) :
    scanValue (fuel + 1) ('\x7b' :: '"' :: cs) =
      (.obj (scanMembers fuel ('"' :: cs)).1, (scanMembers fuel ('"' :: cs)).2) := by
  rw [scanValue]
  rfl

theorem Plain.scanValue_write (v : Plain) {rest : List Char} (h : Ends rest) (fuel : Nat)
    (hfuel : (v.write ++ rest).length < fuel) :
    scanValue fuel (v.write ++ rest) = (v.doc, some rest) := by
  obtain ⟨fuel, rfl⟩ : ∃ k, fuel = k + 1 := ⟨fuel - 1, by omega⟩
  cases v with
  | null => rfl
  | int n => exact scanValue_writeInt n h fuel
  | str s => exact scanValue_writeString s rest fuel
  | list items =>
    have hwrite : (Plain.list items).write ++ rest =
        '[' :: ([','].intercalate (items.map writeString) ++ ']' :: rest) := by
      simp [Plain.write]
    rw [hwrite, List.length_cons] at hfuel
    rw [hwrite]
    cases items with
    | nil => rfl
    | cons s items =>
      have hitems := scanItems_written (s :: items) (List.cons_ne_nil s items) rest fuel (by omega)
      obtain ⟨cs, hcs⟩ := exists_intercalate_eq_cons '"' _ (items.map writeString) (']' :: rest)
      have hrow : [','].intercalate ((s :: items).map writeString) ++ ']' :: rest = '"' :: cs := hcs
      rw [hrow] at hitems ⊢
      rw [scanValue_bracket, hitems]
      rfl

def writeMember (m : String × Plain) : List Char :=
  writeString m.1 ++ ':' :: m.2.write

theorem writeObject_eq (ms : List (String × Plain)) :
    writeObject ms = '\x7b' :: ([','].intercalate (ms.map writeMember) ++ ['\x7d']) :=
  rfl

theorem scan_writeMember (key : String) (v : Plain) {tail : List Char} (h : Ends tail) (fuel : Nat)
    (hfuel : (writeMember (key, v) ++ tail).length < fuel + 1) :
    ∃ cs, skipSpace (writeMember (key, v) ++ tail) = '"' :: cs ∧
      scanString? cs = some (some key, ':' :: (v.write ++ tail)) ∧
      scanValue fuel (v.write ++ tail) = (v.doc, some tail) := by
  have happend : writeMember (key, v) ++ tail = writeString key ++ ':' :: (v.write ++ tail) := by
    simp [writeMember]
  obtain ⟨cs, hcs, hscan⟩ := scanString?_writeString key (':' :: (v.write ++ tail))
  have hkey := length_writeString key
  rw [happend] at hfuel ⊢
  rw [List.length_append, List.length_cons] at hfuel
  have hskip : skipSpace (writeString key ++ ':' :: (v.write ++ tail)) = '"' :: cs := by
    rw [hcs]
    rfl
  exact ⟨cs, hskip, hscan, v.scanValue_write h fuel (by omega)⟩

theorem scanMembers_written (ms : List (String × Plain)) (hms : ms ≠ []) (rest : List Char)
    (fuel : Nat)
    (hfuel : ([','].intercalate (ms.map writeMember) ++ '\x7d' :: rest).length < fuel) :
    scanMembers fuel ([','].intercalate (ms.map writeMember) ++ '\x7d' :: rest) =
      (.ofPlain ms, some rest) := by
  induction ms generalizing fuel with
  | nil => exact absurd rfl hms
  | cons m ms ih =>
    obtain ⟨key, v⟩ := m
    have hcolon : ∀ cs, skipSpace (':' :: cs) = ':' :: cs := fun _ => rfl
    obtain ⟨fuel, rfl⟩ : ∃ k, fuel = k + 1 := ⟨fuel - 1, by omega⟩
    cases ms with
    | nil =>
      rw [List.map_cons, List.map_nil, List.intercalate_singleton] at hfuel ⊢
      obtain ⟨cs, hskip, hscan, hvalue⟩ := scan_writeMember key v (.brace rest) fuel hfuel
      rw [scanMembers, hskip]
      simp only [hscan, hcolon, hvalue, skipSpace_ends (.brace rest)]
      rfl
    | cons next ms =>
      have hmore := ih (List.cons_ne_nil next ms)
      rw [List.map_cons] at hmore
      rw [List.map_cons, List.map_cons, intercalate_comma_cons] at hfuel ⊢
      obtain ⟨cs, hskip, hscan, hvalue⟩ := scan_writeMember key v (.comma _) fuel hfuel
      rw [List.length_append, List.length_cons] at hfuel
      rw [scanMembers, hskip]
      simp only [hscan, hcolon, hvalue, skipSpace_ends (.comma _), hmore fuel (by omega)]
      rfl

theorem scanValue_writeObject {ms : List (String × Plain)} (hms : ms ≠ []) (rest : List Char)
    (fuel : Nat) (hfuel : (writeObject ms ++ rest).length < fuel) :
    scanValue fuel (writeObject ms ++ rest) = (.obj (.ofPlain ms), some rest) := by
  obtain ⟨fuel, rfl⟩ : ∃ k, fuel = k + 1 := ⟨fuel - 1, by omega⟩
  have hwrite : writeObject ms ++ rest =
      '\x7b' :: ([','].intercalate (ms.map writeMember) ++ '\x7d' :: rest) := by
    simp [writeObject_eq]
  rw [hwrite, List.length_cons] at hfuel
  rw [hwrite]
  cases ms with
  | nil => exact absurd rfl hms
  | cons m ms =>
    have hmembers := scanMembers_written (m :: ms) hms rest fuel (by omega)
    obtain ⟨cs, hcs⟩ := exists_intercalate_eq_cons '"' _ (ms.map writeMember) ('\x7d' :: rest)
    have hrow : [','].intercalate ((m :: ms).map writeMember) ++ '\x7d' :: rest = '"' :: cs := hcs
    rw [hrow] at hmembers ⊢
    rw [scanValue_brace, hmembers]

theorem scanValue_onlyObject {ms : List (String × Plain)} (hms : ms ≠ []) :
    scanValue (2 * (writeObject ms).length + 1) (writeObject ms) = (.obj (.ofPlain ms), some []) := by
  have hscan := scanValue_writeObject hms [] (2 * (writeObject ms).length + 1) (by
    rw [List.append_nil]
    omega)
  rwa [List.append_nil] at hscan

theorem Doc.only_writeObject (ms : List (String × Plain)) (hms : ms ≠ []) :
    Doc.only (String.ofList (writeObject ms)) = .obj (.ofPlain ms) := by
  rw [Doc.only, String.toList_ofList, scanValue_onlyObject hms]
  rfl

/-- Whatever follows the first value is not looked at. -/
theorem Doc.first_writeObject {ms : List (String × Plain)} (hms : ms ≠ []) (rest : List Char) :
    Doc.first (String.ofList (writeObject ms ++ rest)) = .obj (.ofPlain ms) := by
  rw [Doc.first, String.toList_ofList, scanValue_writeObject hms rest _ (by omega)]

def writeAround (key : String) (ms : List (String × Plain)) : List Char :=
  '\x7b' :: (writeString key ++ ':' :: (writeObject ms ++ ['\x7d']))

theorem Doc.only_writeAround (key : String) {ms : List (String × Plain)} (hms : ms ≠ []) :
    Doc.only (String.ofList (writeAround key ms)) =
      .obj (.cons (some key) (.obj (.ofPlain ms)) .done) := by
  obtain ⟨cs, hcs, hkey⟩ := scanString?_writeString key (':' :: (writeObject ms ++ ['\x7d']))
  have hlength := length_writeString key
  have htext : writeAround key ms = '\x7b' :: '"' :: cs := congrArg _ hcs
  obtain ⟨fuel, hfuel⟩ : ∃ fuel, 2 * (writeAround key ms).length = fuel + 1 := ⟨_, rfl⟩
  have hvalue := scanValue_writeObject hms ['\x7d'] fuel (by
    rw [writeAround, List.length_cons, List.length_append, List.length_cons] at hfuel
    omega)
  have hquote : skipSpace ('"' :: cs) = '"' :: cs := rfl
  have hcolon : skipSpace (':' :: (writeObject ms ++ ['\x7d'])) =
    ':' :: (writeObject ms ++ ['\x7d']) := rfl
  have hmembers : scanMembers (fuel + 1) ('"' :: cs) =
      (.cons (some key) (.obj (.ofPlain ms)) .done, some []) := by
    rw [scanMembers, hquote]
    simp only [hkey, hcolon, hvalue, skipSpace_ends (.brace [])]
  rw [Doc.only, String.toList_ofList, hfuel, htext, scanValue_brace, hmembers]
  rfl

theorem Items.exists_values (items : List String) (depth : Nat) :
    ∃ vs, (Items.ofTexts items).values depth = .ok vs := by
  induction items with
  | nil => exact ⟨[], rfl⟩
  | cons s items ih =>
    obtain ⟨vs, hvs⟩ := ih
    exact ⟨.str s :: vs, by rw [ofTexts, Items.values, hvs]; rfl⟩

theorem Plain.exists_value {v : Plain} (hv : v.Fits) (depth : Nat) :
    ∃ value, v.doc.value (depth + 1) = .ok value := by
  cases v with
  | null => exact ⟨.null, rfl⟩
  | str s => exact ⟨.str s, rfl⟩
  | int n => exact ⟨.num (.whole n), by rw [doc, Doc.value, value?_numeralOf hv.1 hv.2]⟩
  | list items =>
    obtain ⟨vs, hvs⟩ := Items.exists_values items depth
    exact ⟨.arr vs, by rw [doc, Doc.value, if_neg (Nat.succ_ne_zero depth), Nat.add_sub_cancel, hvs]; rfl⟩

theorem Members.exists_values {ms : List (String × Plain)} (hms : ∀ m ∈ ms, m.2.Fits) (depth : Nat) :
    ∃ values, (Members.ofPlain ms).values (depth + 1) = .ok values := by
  induction ms with
  | nil => exact ⟨[], rfl⟩
  | cons m ms ih =>
    rw [List.forall_mem_cons] at hms
    obtain ⟨values, hvalues⟩ := ih hms.2
    obtain ⟨value, hvalue⟩ := Plain.exists_value hms.1 depth
    exact ⟨consMember m.1 value values, by rw [ofPlain, Members.values, hvalue, hvalues]; rfl⟩

/-- An object that is written has a value, so that nothing in it is taken for a fault. -/
theorem Doc.exists_value {ms : List (String × Plain)} (hms : ∀ m ∈ ms, m.2.Fits) :
    ∃ value, (Doc.obj (.ofPlain ms)).value maxDepth = .ok value := by
  obtain ⟨values, hvalues⟩ := Members.exists_values hms 125
  exact ⟨.obj values, by rw [Doc.value, if_neg (by decide), maxDepth, hvalues]; rfl⟩

theorem newline_notMem_intercalate {parts : List (List Char)} (h : ∀ part ∈ parts, '\n' ∉ part) :
    '\n' ∉ [','].intercalate parts := by
  induction parts with
  | nil => exact List.not_mem_nil
  | cons part parts ih =>
    rw [List.forall_mem_cons] at h
    cases parts with
    | nil =>
      rw [List.intercalate_singleton]
      exact h.1
    | cons next parts =>
      rw [List.intercalate_cons_cons, List.mem_append, List.mem_append, List.mem_singleton, not_or, not_or]
      exact ⟨⟨h.1, by decide⟩, ih h.2⟩

theorem Plain.newline_notMem_write (v : Plain) : '\n' ∉ v.write := by
  cases v with
  | null => decide
  | int n => exact newline_notMem_writeInt n
  | str s => exact newline_notMem_writeString s
  | list items =>
    have hrow : '\n' ∉ [','].intercalate (items.map writeString) := by
      apply newline_notMem_intercalate
      intro part hpart
      obtain ⟨s, -, rfl⟩ := List.mem_map.mp hpart
      exact newline_notMem_writeString s
    simp [write, hrow]

theorem newline_notMem_writeObject (ms : List (String × Plain)) : '\n' ∉ writeObject ms := by
  have hrow : '\n' ∉ [','].intercalate (ms.map writeMember) := by
    apply newline_notMem_intercalate
    intro part hpart
    obtain ⟨m, -, rfl⟩ := List.mem_map.mp hpart
    simp [writeMember, newline_notMem_writeString, m.2.newline_notMem_write]
  rw [writeObject_eq]
  simp [hrow]

end MempoolGate.Json
