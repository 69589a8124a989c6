import TokenFaucet.Curve.Secp256k1

set_option autoImplicit false

namespace TokenFaucet.Signer.Der

open Curve (Secp256k1.PrivateKey)

/-- A tag, its contents, and what follows them. -/
abbrev Element := UInt8 × Bytes × Bytes

/-- The length of an element's contents, in as few bytes as it needs. -/
def length? : Bytes → Option (Nat × Bytes)
  | [] => none
  | b :: rest =>
    if b.toNat < 0x80 then some (b.toNat, rest)
    else
      let count := b.toNat - 0x80
      let n := Bytes.toNat (rest.take count)
      if count = 0 ∨ 4 < count ∨ rest.length < count ∨ n < 0x80 ∨ Bytes.width n ≠ count then none
      else some (n, rest.drop count)

/-- The element at the front of some bytes. -/
def element? (bs : Bytes) : Option Element :=
  match bs with
  | [] => none
  | tag :: rest => do
    let (n, rest) ← length? rest
    if rest.length < n then none else some (tag, rest.take n, rest.drop n)

/-- The contents of an element of that tag, and what follows it. -/
def expect? (tag : UInt8) (bs : Bytes) : Option (Bytes × Bytes) := do
  let (t, contents, rest) ← element? bs
  if t = tag then some (contents, rest) else none

/-- The contents of an element that nothing follows. -/
def whole? (tag : UInt8) (bs : Bytes) : Option Bytes := do
  let (contents, rest) ← expect? tag bs
  if rest.isEmpty then some contents else none

def optional? (tag : UInt8) (bs : Bytes) : Option (Option Bytes × Bytes) :=
  if bs.head? = some tag then do
    let (contents, rest) ← expect? tag bs
    some (some contents, rest)
  else some (none, bs)

/-- The bytes of a bit string without unused bits. -/
def bitString? : Bytes → Option Bytes
  | 0 :: bs => some bs
  | _ => none

def ecPublicKey : Bytes := [0x2A, 0x86, 0x48, 0xCE, 0x3D, 0x02, 0x01]

def curveName : Bytes := [0x2B, 0x81, 0x04, 0x00, 0x0A]

def scalar? (bs : Bytes) : Option Secp256k1.PrivateKey :=
  if 24 ≤ bs.length ∧ bs.length ≤ 32 then Curve.Secp256k1.PrivateKey.ofNat? bs.toNat else none

/-- Whether bytes are the public key, with both coordinates or with one and the other's parity. -/
def isPublicKey (key : Secp256k1.PrivateKey) (bs : Bytes) : Bool :=
  let (x, y) := key.publicPoint
  bs == 4 :: (Bytes.bigEndian 32 x ++ Bytes.bigEndian 32 y) ||
    bs == (if y % 2 = 0 then 2 else 3) :: Bytes.bigEndian 32 x

/-- Reads the form of a key for a curve: version 1, the key, the curve and the public key, of which
the last must be that of the key. -/
def curveKey? (der : Bytes) : Option Secp256k1.PrivateKey := do
  let bs ← whole? 0x30 der
  let (version, bs) ← expect? 0x02 bs
  if version ≠ [1] then none
  let (secret, bs) ← expect? 0x04 bs
  let (curve, bs) ← optional? 0xA0 bs
  if let some curve := curve then
    let _ ← whole? 0x06 curve
  let (given, bs) ← optional? 0xA1 bs
  if !bs.isEmpty then none
  let key ← scalar? secret
  match given with
  | none => some key
  | some given =>
    let given ← bitString? (← whole? 0x03 given)
    if isPublicKey key given then some key else none

/-- Whether nothing but elements of the context's own tags follows. -/
def onlyExtensions : Nat → Bytes → Bool
  | 0, bs => bs.isEmpty
  | fuel + 1, bs =>
    bs.isEmpty ||
      match element? bs with
      | some (tag, _, rest) => 0x80 ≤ tag.toNat && tag.toNat < 0xC0 && onlyExtensions fuel rest
      | none => false

/-- Reads the form that names the algorithm: version 0, or 1 with a public key after the key. -/
def wrappedKey? (der : Bytes) : Option Secp256k1.PrivateKey := do
  let bs ← whole? 0x30 der
  let (version, bs) ← expect? 0x02 bs
  if version ≠ [0] ∧ version ≠ [1] then none
  let (algorithm, bs) ← expect? 0x30 bs
  let (name, parameters) ← expect? 0x06 algorithm
  let curve ← whole? 0x06 parameters
  if name ≠ ecPublicKey ∨ curve ≠ curveName then none
  let (inner, bs) ← expect? 0x04 bs
  let (_, bs) ← optional? 0xA0 bs
  let (given, bs) ← optional? 0x81 bs
  if given.isSome ≠ (version == [1]) then none
  if !onlyExtensions bs.length bs then none
  curveKey? inner

def privateKey? (der : Bytes) : Option Secp256k1.PrivateKey :=
  match curveKey? der with
  | some key => some key
  | none => wrappedKey? der

end TokenFaucet.Signer.Der
