import TokenFaucet.Curve.Modular
import TokenFaucet.Hash.Sha2

set_option autoImplicit false

/-!
The curve `y² = x³ + 7` over a prime field of 256 bits, and signatures with it. The random number of
a signature is drawn from the key and the digest, and of the two values that sign equally well the
lower is taken.
-/

namespace TokenFaucet.Curve.Secp256k1

def p : Nat := 0xFFFFFFFFFFFFFFFFFFFFFFFFFFFFFFFFFFFFFFFFFFFFFFFFFFFFFFFEFFFFFC2F

def n : Nat := 0xFFFFFFFFFFFFFFFFFFFFFFFFFFFFFFFEBAAEDCE6AF48A03BBFD25E8CD0364141

/-- A point in projective coordinates; the point at infinity has `z = 0`. -/
structure Point where
  x : Nat
  y : Nat
  z : Nat

def infinity : Point := ⟨0, 1, 0⟩

def generator : Point where
  x := 0x79BE667EF9DCBBAC55A06295CE870B07029BFCDB2DCE28D959F2815B16F81798
  y := 0x483ADA7726A3C4655DA4FBFC0E1108A8FD17B448A68554199C47D08FFB10D4B8
  z := 1

/-- The sum of two points, by one formula without exceptions. -/
def add (a b : Point) : Point :=
  let xx := a.x * b.x % p
  let yy := a.y * b.y % p
  let zz := a.z * b.z * 21 % p
  let xy := (a.x * b.y + b.x * a.y) % p
  let yz := (a.y * b.z + b.y * a.z) % p
  let xz := (a.x * b.z + b.x * a.z) % p
  let minus := Modular.sub p yy zz
  let plus := (yy + zz) % p
  { x := Modular.sub p (xy * minus % p) (21 * yz * xz % p)
    y := (plus * minus + 63 * xx * xz) % p
    z := (yz * plus + 3 * xx * xy) % p }

/-- The multiple of a point, from the lowest bit up. -/
def multiple (k : Nat) (a acc : Point) : Point :=
  if k = 0 then acc
  else multiple (k / 2) (add a a) (if k % 2 = 1 then add acc a else acc)
termination_by k
decreasing_by omega

def affine (a : Point) : Nat × Nat :=
  let inv := Modular.inverse p a.z
  (a.x * inv % p, a.y * inv % p)

structure PrivateKey where
  toNat : Nat
  pos : 0 < toNat
  lt : toNat < n

/-- The key of that number, if there is one. -/
def PrivateKey.ofNat? (k : Nat) : Option PrivateKey :=
  if h : 0 < k ∧ k < n then some ⟨k, h.1, h.2⟩ else none

def PrivateKey.publicPoint (key : PrivateKey) : Nat × Nat :=
  affine (multiple key.toNat generator infinity)

/-- A signature, and whether the point it came from has an odd second coordinate. -/
structure Signature where
  r : Nat
  s : Nat
  odd : Bool
deriving DecidableEq, Repr

/-- Draws numbers until one is a valid key. -/
def draw : Nat → Bytes → Bytes → Nat
  | 0, _, _ => 1
  | tries + 1, k, v =>
    let v := Hash.hmacSha256 k v
    let candidate := Bytes.toNat v
    if 0 < candidate ∧ candidate < n then candidate
    else
      let k := Hash.hmacSha256 k (v ++ [0])
      draw tries k (Hash.hmacSha256 k v)

/-- The number that a key and a digest determine. -/
def nonce (key : PrivateKey) (digest : Nat) : Nat :=
  let seed := Bytes.bigEndian 32 key.toNat ++ Bytes.bigEndian 32 (digest % n)
  let v := List.replicate 32 1
  let k := Hash.hmacSha256 (List.replicate 32 0) (v ++ 0 :: seed)
  let v := Hash.hmacSha256 k v
  let k := Hash.hmacSha256 k (v ++ 1 :: seed)
  let v := Hash.hmacSha256 k v
  draw 16 k v

/-- The signature of a digest of 32 bytes. -/
def PrivateKey.sign (key : PrivateKey) (digest : Bytes) : Signature :=
  let z := Bytes.toNat digest
  let k := nonce key z
  let (x, y) := affine (multiple k generator infinity)
  let r := x % n
  let s := Modular.inverse n k * (z + r * key.toNat) % n
  let odd := y % 2 == 1
  if n / 2 < s then ⟨r, n - s, !odd⟩ else ⟨r, s, odd⟩

end TokenFaucet.Curve.Secp256k1
