import TokenFaucet.Evm.Address
import TokenFaucet.Signer.Error
import TokenFaucet.Signer.Pem
import TokenFaucet.Signer.Der

set_option autoImplicit false

namespace TokenFaucet

structure EvmSigner where
  key : Curve.Secp256k1.PrivateKey
  address : Evm.Address

namespace EvmSigner

/-- The account of a key: the end of the hash of the public key. -/
def ofKey (key : Curve.Secp256k1.PrivateKey) : EvmSigner :=
  let (x, y) := key.publicPoint
  ⟨key, .lastBytes ((Hash.keccak256 (Bytes.bigEndian 32 x ++ Bytes.bigEndian 32 y)).drop 12)⟩

/-- Text without any number of marks `0x` in front. -/
def withoutMarks : List Char → List Char
  | '0' :: 'x' :: rest => withoutMarks rest
  | cs => cs

/-- Reads a secret, blanks around it allowed. -/
def parse (secret : String) : Except SignerError EvmSigner := do
  let secret := Text.trim secret
  if secret.startsWith "-----BEGIN" then
    match Signer.Pem.decode? secret with
    | none => throw .badPem
    | some der =>
      match Signer.Der.privateKey? der with
      | none => throw .badKeyFormat
      | some key => return ofKey key
  else
    let digits := String.ofList (withoutMarks secret.toList)
    let bytes ← (Bytes.Hex.decode digits).mapError .badHex
    match Signer.Der.scalar? bytes with
    | none => throw .notAScalar
    | some key => return ofKey key

def debug (s : EvmSigner) : String :=
  "EvmSigner \x7b address: " ++ s.address.text ++ ", .. \x7d"

end EvmSigner

end TokenFaucet
