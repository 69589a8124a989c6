import TokenFaucet.Bytes.Basic

set_option autoImplicit false

namespace TokenFaucet.Hash.Keccak

/-- 25 lanes of 64 bits; the lane of column `x` and row `y` stands at `x + 5 y`. -/
abbrev State := Vector UInt64 25

def lane (s : State) (x y : Nat) : UInt64 :=
  s.get (Fin.ofNat 25 (x % 5 + 5 * (y % 5)))

def rotate (w : UInt64) (n : Nat) : UInt64 :=
  if n % 64 = 0 then w
  else (w <<< UInt64.ofNat (n % 64)) ||| (w >>> UInt64.ofNat (64 - n % 64))

/-- By how many bits each lane is turned, in the order of the lanes. -/
def rotations : Vector Nat 25 :=
  #v[0, 1, 62, 28, 27, 36, 44, 6, 55, 20, 3, 10, 43, 25, 39, 41, 45, 15, 21, 8, 18, 2, 61, 56, 14]

def roundConstants : List UInt64 :=
  [0x0000000000000001, 0x0000000000008082, 0x800000000000808A, 0x8000000080008000,
    0x000000000000808B, 0x0000000080000001, 0x8000000080008081, 0x8000000000008009,
    0x000000000000008A, 0x0000000000000088, 0x0000000080008009, 0x000000008000000A,
    0x000000008000808B, 0x800000000000008B, 0x8000000000008089, 0x8000000000008003,
    0x8000000000008002, 0x8000000000000080, 0x000000000000800A, 0x800000008000000A,
    0x8000000080008081, 0x8000000000008080, 0x0000000080000001, 0x8000000080008008]

def parity (s : State) (x : Nat) : UInt64 :=
  lane s x 0 ^^^ lane s x 1 ^^^ lane s x 2 ^^^ lane s x 3 ^^^ lane s x 4

/-- Adds to each lane the parities of two neighbouring columns. -/
def mixColumns (s : State) : State :=
  let p : Vector UInt64 5 := Vector.ofFn fun x => parity s x
  let d : Vector UInt64 5 := Vector.ofFn fun x =>
    p.get (Fin.ofNat 5 (x + 4)) ^^^ rotate (p.get (Fin.ofNat 5 (x + 1))) 1
  Vector.ofFn fun i => s.get i ^^^ d.get (Fin.ofNat 5 i)

/-- Turns the lanes and moves them to other places. -/
def moveLanes (s : State) : State :=
  Vector.ofFn fun i =>
    let x := i.val % 5
    let y := i.val / 5
    -- the lane that comes here stood in column `x + 3 y` of row `x`
    let source : Fin 25 := Fin.ofNat 25 ((x + 3 * y) % 5 + 5 * x)
    rotate (s.get source) (rotations.get source)

/-- The step that is not linear, along the rows. -/
def mixRows (s : State) : State :=
  Vector.ofFn fun i =>
    let x := i.val % 5
    let y := i.val / 5
    lane s x y ^^^ (~~~(lane s (x + 1) y) &&& lane s (x + 2) y)

def round (s : State) (constant : UInt64) : State :=
  let s := mixRows (moveLanes (mixColumns s))
  s.set 0 (s.get 0 ^^^ constant)

def permute (s : State) : State :=
  roundConstants.foldl round s

/-- The bytes that one permutation takes in. -/
def rate : Nat := 136

/-- A message filled up to a multiple of the rate: a one bit, zeros, a one bit. -/
def padded (message : Bytes) : Bytes :=
  let missing := rate - message.length % rate
  if missing = 1 then message ++ [0x81]
  else message ++ 0x01 :: (List.replicate (missing - 2) 0 ++ [0x80])

def lanes : Nat → Bytes → List UInt64
  | 0, _ => []
  | count + 1, bs => UInt64.ofNat (Bytes.toNatLE (bs.take 8)) :: lanes count (bs.drop 8)

def absorb (s : State) (block : Bytes) : State :=
  let ws := (lanes (rate / 8) block).toArray
  permute (Vector.ofFn fun i => s.get i ^^^ ws.getD i.val 0)

def absorbAll : Nat → State → Bytes → State
  | 0, s, _ => s
  | blocks + 1, s, bs => absorbAll blocks (absorb s (bs.take rate)) (bs.drop rate)

end Keccak

def keccak256 (message : Bytes) : Bytes :=
  let bs := Keccak.padded message
  let s := Keccak.absorbAll (bs.length / Keccak.rate) (Vector.replicate 25 0) bs
  (s.toList.take 4).flatMap fun w => Bytes.littleEndian 8 w.toNat

end TokenFaucet.Hash
