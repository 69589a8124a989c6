import TokenFaucet.Bytes.Basic

set_option autoImplicit false

attribute [local instance (2000)] instPowNat

namespace TokenFaucet.Hash.Sha2

/-- What the two hashes differ in. -/
structure Variant where
  /-- Bits of a word. -/
  bits : Nat
  /-- The first bits of the fractional parts of square roots of primes. -/
  start : List Nat
  /-- The same of cube roots; one for each round. -/
  constants : List Nat
  /-- Rotations of the state: two groups of three. -/
  big0 : Nat × Nat × Nat
  big1 : Nat × Nat × Nat
  /-- Rotations of the schedule: two turns and a shift. -/
  small0 : Nat × Nat × Nat
  small1 : Nat × Nat × Nat

def primes (bound : Nat) : List Nat :=
  (List.range bound).filter fun n => 2 ≤ n && (List.range n).all fun d => d < 2 || n % d != 0

/-- The largest number whose `k`-th power is at most `n`, found bit by bit. -/
def root (k n : Nat) : Nat → Nat → Nat
  | 0, acc => acc
  | bit + 1, acc =>
    let next := acc + 2 ^ bit
    if next ^ k ≤ n then root k n bit next else root k n bit acc

/-- The first bits of the fractional part of the `k`-th root of `n`. -/
def rootFraction (bits k n : Nat) : Nat :=
  root k (n * 2 ^ (k * bits)) (bits + 10) 0 % 2 ^ bits

def variant256 : Variant where
  bits := 32
  start := (primes 20).map (rootFraction 32 2)
  constants := (primes 312).map (rootFraction 32 3)
  big0 := (2, 13, 22)
  big1 := (6, 11, 25)
  small0 := (7, 18, 3)
  small1 := (17, 19, 10)

def variant512 : Variant where
  bits := 64
  start := (primes 20).map (rootFraction 64 2)
  constants := (primes 410).map (rootFraction 64 3)
  big0 := (28, 34, 39)
  big1 := (14, 18, 41)
  small0 := (1, 8, 7)
  small1 := (19, 61, 6)

namespace Variant

variable (v : Variant)

def add (a b : Nat) : Nat := (a + b) % 2 ^ v.bits

def turn (w n : Nat) : Nat :=
  (w >>> n) ||| (w <<< (v.bits - n)) % 2 ^ v.bits

def turns (r : Nat × Nat × Nat) (w : Nat) : Nat :=
  v.turn w r.1 ^^^ v.turn w r.2.1 ^^^ v.turn w r.2.2

def turnsShift (r : Nat × Nat × Nat) (w : Nat) : Nat :=
  v.turn w r.1 ^^^ v.turn w r.2.1 ^^^ (w >>> r.2.2)

def blockSize : Nat := 2 * v.bits

/-- A message filled up to whole blocks: a one bit, zeros, and its length in bits. -/
def padded (message : Bytes) : Bytes :=
  let lengthSize := v.bits / 4
  let used := (message.length + 1 + lengthSize) % v.blockSize
  message ++ 0x80 :: (List.replicate ((v.blockSize - used) % v.blockSize) 0 ++
    Bytes.bigEndian lengthSize (8 * message.length))

def words : Nat → Bytes → List Nat
  | 0, _ => []
  | count + 1, bs => Bytes.toNat (bs.take (v.bits / 8)) :: words count (bs.drop (v.bits / 8))

/-- The words of all rounds; the latest 16 are kept, the nearest first. -/
def schedule : Nat → List Nat → List Nat
  | 0, recent => recent
  | count + 1, recent =>
    let w (i : Nat) := recent.getD (i - 1) 0
    let next := v.add (v.add (v.turnsShift v.small1 (w 2)) (w 7))
      (v.add (v.turnsShift v.small0 (w 15)) (w 16))
    schedule count (next :: recent)

/-- One round on the eight words of the state. -/
def round (s : List Nat) (kw : Nat × Nat) : List Nat :=
  match s with
  | [a, b, c, d, e, f, g, h] =>
    let choice := (e &&& f) ^^^ ((2 ^ v.bits - 1 - e) &&& g)
    let t1 := v.add (v.add h (v.turns v.big1 e)) (v.add choice (v.add kw.1 kw.2))
    let majority := (a &&& b) ^^^ (a &&& c) ^^^ (b &&& c)
    let t2 := v.add (v.turns v.big0 a) majority
    [v.add t1 t2, a, b, c, v.add d t1, e, f, g]
  | s => s

def absorb (s : List Nat) (block : Bytes) : List Nat :=
  let first := (v.words 16 block).reverse
  let ws := (v.schedule (v.constants.length - 16) first).reverse
  let mixed := (v.constants.zip ws).foldl v.round s
  List.zipWith v.add s mixed

def absorbAll : Nat → List Nat → Bytes → List Nat
  | 0, s, _ => s
  | blocks + 1, s, bs => absorbAll blocks (v.absorb s (bs.take v.blockSize)) (bs.drop v.blockSize)

def hash (message : Bytes) : Bytes :=
  let bs := v.padded message
  let s := v.absorbAll (bs.length / v.blockSize) v.start bs
  s.flatMap fun w => Bytes.bigEndian (v.bits / 8) w

end Variant

end Sha2

def sha256 (message : Bytes) : Bytes :=
  Sha2.variant256.hash message

def sha512 (message : Bytes) : Bytes :=
  Sha2.variant512.hash message

/-- The message code of a key of at most 64 bytes. -/
def hmacSha256 (key message : Bytes) : Bytes :=
  let block := key ++ List.replicate (64 - key.length) 0
  sha256 (block.map (· ^^^ 0x5C) ++ sha256 (block.map (· ^^^ 0x36) ++ message))

end TokenFaucet.Hash
