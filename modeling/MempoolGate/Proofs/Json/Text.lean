import MempoolGate.Json.Document
import MempoolGate.Json.Writer

namespace MempoolGate.Json

theorem scanPieces?_short {e c : Char} (he : escaped? e = some c) (rest : List Char) :
    scanPieces? ('\\' :: e :: rest) = (scanPieces? rest).map fun (ps, after) => (.char c :: ps, after) := by
  have hu : e ≠ 'u' := by
    rintro rfl
    cases he
  rw [scanPieces?.eq_def]
  split
  · next h => cases h
  · next h => simp at h
  · next h =>
    cases h
    exact absurd rfl hu
  · next h =>
    cases h
    rw [he]
    cases scanPieces? rest <;> rfl
  · next hshort h =>
    cases h
    exact (hshort _ _ rfl rfl).elim

theorem scanPieces?_unit {a b c d : Char} {n : Nat} (h : unitOf? a b c d = some n)
    (rest : List Char) : scanPieces? ('\\' :: 'u' :: a :: b :: c :: d :: rest) =
      (scanPieces? rest).map fun (ps, after) => (.unit n :: ps, after) := by
  rw [scanPieces?, h]
  cases scanPieces? rest <;> rfl

theorem scanPieces?_plain {c : Char} (hquote : c ≠ '"') (hslash : c ≠ '\\') (hlow : 0x20 ≤ c.toNat)
    (rest : List Char) :
    scanPieces? (c :: rest) = (scanPieces? rest).map fun (ps, after) => (.char c :: ps, after) := by
  have hplain : ¬(c = '\\' ∨ c.toNat < 0x20) := by
    rw [not_or]
    exact ⟨hslash, Nat.not_lt.mpr hlow⟩
  rw [scanPieces?.eq_def]
  split
  · next h => cases h
  · next h => exact absurd (List.cons.inj h).1 hquote
  · next h => exact absurd (List.cons.inj h).1 hslash
  · next h => exact absurd (List.cons.inj h).1 hslash
  · next h =>
    cases h
    rw [if_neg hplain]
    cases scanPieces? rest <;> rfl

/-- How a character is written: by a letter, by its number, or as itself. -/
inductive Escaped (c : Char) : List Char → Prop
  | short (e : Char) (he : escaped? e = some c) (hline : e ≠ '\n') : Escaped c ['\\', e]
  | unit (hlow : c.toNat < 0x20) : Escaped c
      ['\\', 'u', '0', '0', Text.hexDigit (c.toNat / 16), Text.hexDigit (c.toNat % 16)]
  | plain (hquote : c ≠ '"') (hslash : c ≠ '\\') (hlow : 0x20 ≤ c.toNat) : Escaped c [c]

theorem escaped_escapeChar (c : Char) : Escaped c (escapeChar c) := by
  unfold escapeChar
  split
  · next h => exact .short '"' (by rw [h]; rfl) (by decide)
  split
  · next h => exact .short '\\' (by rw [h]; rfl) (by decide)
  split
  · next h => exact .short 'b' (h ▸ rfl) (by decide)
  split
  · next h => exact .short 'f' (h ▸ rfl) (by decide)
  split
  · next h => exact .short 'n' (h ▸ rfl) (by decide)
  split
  · next h => exact .short 'r' (h ▸ rfl) (by decide)
  split
  · next h => exact .short 't' (h ▸ rfl) (by decide)
  split
  · next hlow => exact .unit hlow
  · next hquote hslash _ _ _ _ _ hlow => exact .plain hquote hslash (Nat.le_of_not_lt hlow)

theorem unitOf?_hexDigits : ∀ n < 0x20,
    unitOf? '0' '0' (Text.hexDigit (n / 16)) (Text.hexDigit (n % 16)) = some n := by
  decide

theorem hexDigit_ne_newline : ∀ n < 0x10, Text.hexDigit n ≠ '\n' := by
  decide

theorem Escaped.newline_notMem {c : Char} {cs : List Char} (h : Escaped c cs) : '\n' ∉ cs := by
  cases h with
  | short e he hline => simp [Ne.symm hline]
  | unit hlow =>
    have hhigh := hexDigit_ne_newline (c.toNat / 16) (by omega)
    have hrest := hexDigit_ne_newline (c.toNat % 16) (by omega)
    simp [Ne.symm hhigh, Ne.symm hrest]
  | plain hquote hslash hlow =>
    rw [List.mem_singleton]
    rintro rfl
    exact absurd hlow (by decide)

/-- The part that a written character is read as comes to this character again. -/
theorem Escaped.exists_piece {c : Char} {cs : List Char} (h : Escaped c cs) :
    ∃ piece, (∀ rest, scanPieces? (cs ++ rest) =
        (scanPieces? rest).map fun (ps, after) => (piece :: ps, after)) ∧
      ∀ ps, joinPieces? (piece :: ps) = (joinPieces? ps).map (c :: ·) := by
  cases h with
  | short e he => exact ⟨.char c, scanPieces?_short he, fun ps => by rw [joinPieces?]⟩
  | plain hquote hslash hlow =>
    exact ⟨.char c, scanPieces?_plain hquote hslash hlow, fun ps => by rw [joinPieces?]⟩
  | unit hlow =>
    refine ⟨.unit c.toNat, scanPieces?_unit (unitOf?_hexDigits c.toNat hlow), fun ps => ?_⟩
    have hpair : ¬(0xD800 ≤ c.toNat ∧ c.toNat < 0xE000) := by omega
    -- A unit below the surrogates does not wait for another half, whatever comes next.
    cases ps with
    | nil => simp [joinPieces?, hpair]
    | cons piece ps =>
      cases piece with
      | char d => simp [joinPieces?, hpair]
      | unit low =>
        have hhigh : ¬(0xD800 ≤ c.toNat ∧ c.toNat < 0xDC00 ∧ 0xDC00 ≤ low ∧ low < 0xE000) := by omega
        rw [joinPieces?, if_neg hhigh, if_neg hpair, Char.ofNat_toNat]

theorem scanPieces?_written (cs rest : List Char) :
    ∃ ps, scanPieces? (cs.flatMap escapeChar ++ '"' :: rest) = some (ps, rest) ∧
      joinPieces? ps = some cs := by
  induction cs with
  | nil => exact ⟨[], by simp [scanPieces?], rfl⟩
  | cons c cs ih =>
    obtain ⟨ps, hscan, hjoin⟩ := ih
    obtain ⟨piece, hpiece, hvalue⟩ := (escaped_escapeChar c).exists_piece
    refine ⟨piece :: ps, ?_, ?_⟩
    · rw [List.flatMap_cons, List.append_assoc, hpiece, hscan]
      rfl
    · rw [hvalue, hjoin]
      rfl

/-- A string ends at the quote that was written for its end. -/
theorem scanString?_written (s : String) (rest : List Char) :
    scanString? (s.toList.flatMap escapeChar ++ '"' :: rest) = some (some s, rest) := by
  obtain ⟨ps, hscan, hjoin⟩ := scanPieces?_written s.toList rest
  rw [scanString?, hscan, Option.map_some]
  simp only [hjoin, Option.map_some, String.ofList_toList]

theorem newline_notMem_writeString (s : String) : '\n' ∉ writeString s := by
  simp only [writeString, List.mem_append, List.mem_cons, List.mem_flatMap, not_or,
    not_exists, not_and]
  exact ⟨⟨by decide, fun c _ => (escaped_escapeChar c).newline_notMem⟩, by decide⟩

end MempoolGate.Json
