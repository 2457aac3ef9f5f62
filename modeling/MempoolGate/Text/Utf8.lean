namespace MempoolGate.Text

/-- How the bytes of one character go on after its first byte: the number of bytes still to come,
the range allowed for the next of them, and the bits collected so far. -/
structure Lead where
  more : Nat
  low : Nat
  high : Nat
  bits : Nat

def lead? (b : Nat) : Option Lead :=
  if 0xC2 ≤ b ∧ b ≤ 0xDF then some ⟨1, 0x80, 0xBF, b - 0xC0⟩
  else if b = 0xE0 then some ⟨2, 0xA0, 0xBF, 0⟩
  else if b = 0xED then some ⟨2, 0x80, 0x9F, 0xD⟩
  else if 0xE1 ≤ b ∧ b ≤ 0xEF then some ⟨2, 0x80, 0xBF, b - 0xE0⟩
  else if b = 0xF0 then some ⟨3, 0x90, 0xBF, 0⟩
  else if 0xF1 ≤ b ∧ b ≤ 0xF3 then some ⟨3, 0x80, 0xBF, b - 0xF0⟩
  else if b = 0xF4 then some ⟨3, 0x80, 0x8F, 4⟩
  else none

/-- The character begun by `pending`, when there is one, and those of the bytes after it. An
ill-formed part becomes `none`. -/
def utf8Parts (pending : Option Lead) : List UInt8 → List (Option Char)
  | [] => if pending.isSome then [none] else []
  | b :: rest =>
    let n := b.toNat
    let fresh :=
      if n < 0x80 then some (Char.ofNat n) :: utf8Parts none rest
      else match lead? n with
        | some lead => utf8Parts (some lead) rest
        | none => none :: utf8Parts none rest
    match pending with
    | none => fresh
    | some lead =>
      if lead.low ≤ n ∧ n ≤ lead.high then
        let bits := lead.bits * 64 + (n - 0x80)
        if lead.more = 1 then some (Char.ofNat bits) :: utf8Parts none rest
        else utf8Parts (some ⟨lead.more - 1, 0x80, 0xBF, bits⟩) rest
      else none :: fresh

def utf8Decode? (bytes : List UInt8) : Option String :=
  ((utf8Parts none bytes).mapM id).map String.ofList

def utf8Replace (bytes : List UInt8) : String :=
  String.ofList ((utf8Parts none bytes).map (·.getD '\uFFFD'))

def utf8Encode (s : String) : List UInt8 :=
  s.toUTF8.toList

end MempoolGate.Text
