import TokenFaucet.Evm.Address
import TokenFaucet.Evm.Rlp
import TokenFaucet.Amount
import TokenFaucet.Signer.Evm

set_option autoImplicit false

namespace TokenFaucet.Evm

structure Transaction where
  chainId : UInt64
  nonce : Nat
  gasPrice : Nat
  gasLimit : Nat
  target : Address
  value : MinorUnits
  input : Bytes

namespace Transaction

/-- The fields that every form of a transaction begins with. -/
def fields (t : Transaction) : List Rlp :=
  [.ofNat t.nonce, .ofNat t.gasPrice, .ofNat t.gasLimit, .bytes t.target.bytes, .ofNat t.value.toNat,
    .bytes t.input]

def digest (t : Transaction) : Bytes :=
  Hash.keccak256
    (Rlp.list (t.fields ++ [.ofNat t.chainId.toNat, .bytes [], .bytes []])).encode

/-- The chain's id and the parity of a signature in one number. -/
def parityField (t : Transaction) (s : Curve.Secp256k1.Signature) : Nat :=
  35 + 2 * t.chainId.toNat + (if s.odd then 1 else 0)

/-- The bytes of a transaction with a signature. -/
def encodeSigned (t : Transaction) (s : Curve.Secp256k1.Signature) : Bytes :=
  (Rlp.list (t.fields ++ [.ofNat (t.parityField s), .ofNat s.r, .ofNat s.s])).encode

/-- The bytes of a transaction signed with a key. -/
def signed (t : Transaction) (key : Curve.Secp256k1.PrivateKey) : Bytes :=
  t.encodeSigned (key.sign t.digest)

end Transaction

end TokenFaucet.Evm
