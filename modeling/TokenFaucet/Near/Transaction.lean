import TokenFaucet.Hash.Sha2
import TokenFaucet.Signer.Edwards

set_option autoImplicit false

namespace TokenFaucet.Near

/-- The bytes of a text: its length in four bytes, then the text. -/
def textBytes (s : String) : Bytes :=
  let bs := Bytes.ofString s
  Bytes.littleEndian 4 bs.length ++ bs

structure Transfer where
  signerId : String
  publicKey : Bytes
  nonce : Nat
  receiverId : String
  blockId : Bytes
  deposit : Nat

namespace Transfer

/-- The mark of keys of the curve Ed25519. -/
def keyMark : UInt8 := 0

/-- The mark of the action that transfers. -/
def transferMark : UInt8 := 3

/-- The bytes of a transaction with one action. -/
def encode (t : Transfer) : Bytes :=
  textBytes t.signerId ++ keyMark :: t.publicKey ++ Bytes.littleEndian 8 t.nonce ++
    textBytes t.receiverId ++ t.blockId ++ Bytes.littleEndian 4 1 ++
    transferMark :: Bytes.littleEndian 16 t.deposit

/-- The bytes of a transaction and the signature of their digest. -/
def signed (t : Transfer) (signer : NearSigner) : Bytes :=
  let bytes := t.encode
  bytes ++ keyMark :: signer.key.sign (Hash.sha256 bytes)

end Transfer

end TokenFaucet.Near
