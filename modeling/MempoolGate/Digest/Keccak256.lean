namespace MempoolGate.Digest.Keccak256

/-- Twenty-five lanes; the lane in column `x` and row `y` has index `x + 5 * y`. -/
abbrev Lanes := List UInt64

def lane (s : Lanes) (x y : Nat) : UInt64 :=
  s.getD (x % 5 + 5 * (y % 5)) 0

def ofLanes (f : Nat → Nat → UInt64) : Lanes :=
  (List.range 25).map fun i => f (i % 5) (i / 5)

def roundConstants : List UInt64 :=
  [0x0000000000000001, 0x0000000000008082, 0x800000000000808A, 0x8000000080008000,
   0x000000000000808B, 0x0000000080000001, 0x8000000080008081, 0x8000000000008009,
   0x000000000000008A, 0x0000000000000088, 0x0000000080008009, 0x000000008000000A,
   0x000000008000808B, 0x800000000000008B, 0x8000000000008089, 0x8000000000008003,
   0x8000000000008002, 0x8000000000000080, 0x000000000000800A, 0x800000008000000A,
   0x8000000080008081, 0x8000000000008080, 0x0000000080000001, 0x8000000080008008]

def offsets : List UInt64 :=
  [0, 1, 62, 28, 27, 36, 44, 6, 55, 20, 3, 10, 43, 25, 39, 41, 45, 15, 21, 8, 18, 2, 61, 56, 14]

def rotl (x n : UInt64) : UInt64 :=
  if n = 0 then x else (x <<< n) ||| (x >>> (64 - n))

def theta (s : Lanes) : Lanes :=
  let parity := (List.range 5).map fun x =>
    lane s x 0 ^^^ lane s x 1 ^^^ lane s x 2 ^^^ lane s x 3 ^^^ lane s x 4
  let column (x : Nat) := parity.getD (x % 5) 0
  ofLanes fun x y => lane s x y ^^^ (column (x + 4) ^^^ rotl (column (x + 1)) 1)

def rhoPi (s : Lanes) : Lanes :=
  ofLanes fun x y =>
    -- the lane that lands in column `x` and row `y` comes from column `x + 3 * y` and row `x`
    rotl (lane s (x + 3 * y) x) (offsets.getD ((x + 3 * y) % 5 + 5 * x) 0)

def chi (s : Lanes) : Lanes :=
  ofLanes fun x y => lane s x y ^^^ (~~~lane s (x + 1) y &&& lane s (x + 2) y)

def round (s : Lanes) (constant : UInt64) : Lanes :=
  match chi (rhoPi (theta s)) with
  | first :: rest => (first ^^^ constant) :: rest
  | [] => []

def permute (s : Lanes) : Lanes :=
  roundConstants.foldl round s

def toLane (bytes : List UInt8) : UInt64 :=
  bytes.foldr (fun b acc => acc <<< 8 ||| b.toUInt64) 0

def rate : Nat := 136

/-- The message, a one bit, zeros and a last one bit: a whole number of blocks. -/
def pad (message : List UInt8) : List UInt8 :=
  match rate - message.length % rate with
  | 1 => message ++ [0x81]
  | n => message ++ [0x01] ++ List.replicate (n - 2) 0 ++ [0x80]

def absorb (s : Lanes) (block : List UInt8) : Lanes :=
  permute ((List.range 25).map fun i =>
    s.getD i 0 ^^^ toLane ((block.drop (8 * i)).take 8))

def absorbAll : Nat → Lanes → List UInt8 → Lanes
  | 0, s, _ => s
  | n + 1, s, bytes => absorbAll n (absorb s (bytes.take rate)) (bytes.drop rate)

def digest (message : List UInt8) : List UInt8 :=
  let padded := pad message
  let final := absorbAll (padded.length / rate) (List.replicate 25 0) padded
  (final.take 4).flatMap fun w => (List.range 8).map fun i => UInt8.ofNat (w.toNat >>> (8 * i))

end MempoolGate.Digest.Keccak256
