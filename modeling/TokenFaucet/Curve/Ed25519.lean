import TokenFaucet.Curve.Modular
import TokenFaucet.Hash.Sha2

set_option autoImplicit false

attribute [local instance (2000)] instPowNat

namespace TokenFaucet.Curve.Ed25519

def fieldBits : Nat := 255

def p : Nat := 2 ^ fieldBits - 19

/-- The order of the base point; the curve has `2 ^ 3` times as many points. -/
def order : Nat := 2 ^ (fieldBits - 3) + 27742317777372353535851937790883648493

def d : Nat := (p - 121665) * Modular.inverse p 121666 % p

/-- A point in extended coordinates, with `x y = z t`. -/
structure Point where
  x : Nat
  y : Nat
  z : Nat
  t : Nat

def neutral : Point := ⟨0, 1, 1, 0⟩

def ofAffine (x y : Nat) : Point := ⟨x, y, 1, x * y % p⟩

/-- The sum of two points, by one formula without exceptions. -/
def add (a b : Point) : Point :=
  let m := Modular.sub p a.y a.x * Modular.sub p b.y b.x % p
  let q := (a.y + a.x) * (b.y + b.x) % p
  let c := a.t * (2 * d) * b.t % p
  let e := 2 * a.z * b.z % p
  let f := Modular.sub p q m
  let g := Modular.sub p e c
  let h := (e + c) % p
  let i := (q + m) % p
  ⟨f * g % p, h * i % p, g * h % p, f * i % p⟩

/-- The multiple of a point, from the lowest bit up. -/
def multiple (k : Nat) (a acc : Point) : Point :=
  if k = 0 then acc
  else multiple (k / 2) (add a a) (if k % 2 = 1 then add acc a else acc)
termination_by k
decreasing_by omega

/-- A square root of `u / v`, if there is one. -/
def squareRoot? (u v : Nat) : Option Nat :=
  let w := u * Modular.inverse p v % p
  let root := Modular.pow p w ((p + 3) / 8)
  if root * root % p = w then some root
  else
    let other := root * Modular.pow p 2 ((p - 1) / 4) % p
    if other * other % p = w then some other else none

/-- The first coordinate that belongs to a second, up to its sign. -/
def abscissa? (y : Nat) : Option Nat :=
  squareRoot? (Modular.sub p (y * y) 1) ((d * (y * y % p) + 1) % p)

/-- The base point: its second coordinate is `4 / 5` and its first is even. -/
def base : Point :=
  let y := 4 * Modular.inverse p 5 % p
  let x := (abscissa? y).getD 0
  ofAffine (if x % 2 = 0 then x else p - x) y

/-- The 32 bytes of a point: the second coordinate, and the parity of the first in the top bit. -/
def encode (a : Point) : Bytes :=
  let inv := Modular.inverse p a.z
  let x := a.x * inv % p
  let y := a.y * inv % p
  Bytes.littleEndian 32 (y + x % 2 * 2 ^ fieldBits)

/-- Whether 32 bytes are those of a point. -/
def isPoint (bs : Bytes) : Bool :=
  (abscissa? (Bytes.toNatLE bs % 2 ^ fieldBits % p)).isSome

structure PrivateKey where
  seed : Bytes
  length_seed : seed.length = 32

namespace PrivateKey

/-- The secret multiplier, with the bits that every such number has. -/
def scalar (key : PrivateKey) : Nat :=
  let k := Bytes.toNatLE ((Hash.sha512 key.seed).take 32)
  k % 2 ^ (fieldBits - 1) / 8 * 8 + 2 ^ (fieldBits - 1)

def publicKey (key : PrivateKey) : Bytes :=
  encode (multiple key.scalar base neutral)

def sign (key : PrivateKey) (message : Bytes) : Bytes :=
  let r := Bytes.toNatLE (Hash.sha512 ((Hash.sha512 key.seed).drop 32 ++ message)) % order
  let point := encode (multiple r base neutral)
  let k := Bytes.toNatLE (Hash.sha512 (point ++ key.publicKey ++ message)) % order
  point ++ Bytes.littleEndian 32 ((r + k * key.scalar) % order)

end PrivateKey

end TokenFaucet.Curve.Ed25519
