namespace MempoolGate

/-- A floating-point number, held as its bit pattern. -/
structure Binary64 where
  bits : UInt64
deriving DecidableEq, Repr

namespace Binary64

def hiddenBit : Nat := 0x10000000000000

def roundDiv (num den : Nat) : Nat :=
  let q := num / den
  let twice := 2 * (num % den)
  if twice < den ∨ (twice = den ∧ q % 2 = 0) then q else q + 1

/-- The exponent of the last place of a quotient: 53 bits are kept, fewer below the normal range. -/
def lastPlace (num den : Nat) : Int :=
  let guess : Int := (num.log2 : Int) - den.log2 - 52
  let short := num <<< (-(guess + 52)).toNat < den <<< (guess + 52).toNat
  max (-1074) (if short then guess - 1 else guess)

/-- The number nearest to a quotient; `none` when it lies beyond the greatest finite one. -/
def ofRatio? (num den : Nat) : Option Binary64 :=
  if num = 0 then some ⟨0⟩
  else
    let e := lastPlace num den
    let kept := roundDiv (num <<< (-e).toNat) (den <<< e.toNat)
    let bits := ((e + 1074).toNat <<< 52) + kept
    if bits < 0x7FF <<< 52 then some ⟨UInt64.ofNat bits⟩ else none

def ratio (x : Binary64) : Nat × Nat :=
  let field := (x.bits.toNat >>> 52) % 0x800
  let fraction := x.bits.toNat % hiddenBit
  let (m, e) := if field = 0 then (fraction, 1) else (fraction + hiddenBit, field)
  (m <<< (e - 1075), 1 <<< (1075 - e))

def zero : Binary64 := ⟨0⟩

def neg (x : Binary64) : Binary64 :=
  ⟨x.bits ^^^ 0x8000000000000000⟩

def ofNat (n : Nat) : Binary64 :=
  (ofRatio? n 1).getD zero

def mul? (x y : Binary64) : Option Binary64 :=
  ofRatio? (x.ratio.1 * y.ratio.1) (x.ratio.2 * y.ratio.2)

def div? (x y : Binary64) : Option Binary64 :=
  ofRatio? (x.ratio.1 * y.ratio.2) (x.ratio.2 * y.ratio.1)

def powTen (n : Nat) : Binary64 :=
  (ofRatio? (Nat.pow 10 n) 1).getD zero

end Binary64

end MempoolGate
