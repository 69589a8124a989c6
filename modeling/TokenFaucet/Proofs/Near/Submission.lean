import TokenFaucet.Proofs.Bytes.Base64
import TokenFaucet.Proofs.Near.Answers
import TokenFaucet.Proofs.Near.Wire

set_option autoImplicit false

attribute [local instance (2000)] instPowNat

namespace TokenFaucet

namespace Near

theorem AccountId.length_of_isValid {s : String} (valid : AccountId.isValid s) :
    (Bytes.ofString s).length < UInt32.size := by
  have size : s.utf8ByteSize ≤ 64 := by
    simp only [AccountId.isValid, Bool.and_eq_true, decide_eq_true_eq] at valid
    exact valid.1.1.2
  rw [Bytes.length_ofString]
  exact Nat.lt_of_le_of_lt size (by decide)

/-- A transfer between accounts, under a key and after a block of 32 bytes each. -/
structure Transfer.Proper (t : Transfer) : Prop where
  signerId : AccountId.isValid t.signerId
  publicKey : t.publicKey.length = 32
  nonce : t.nonce < UInt64.size
  receiverId : AccountId.isValid t.receiverId
  blockId : t.blockId.length = 32
  deposit : t.deposit < 2 ^ NearChain.depositBits

theorem Transfer.Proper.sized {t : Transfer} (proper : t.Proper) : t.Sized where
  signerId := AccountId.length_of_isValid proper.signerId
  publicKey := proper.publicKey
  nonce := proper.nonce
  receiverId := AccountId.length_of_isValid proper.receiverId
  blockId := proper.blockId
  deposit := proper.deposit

end Near

namespace NearChain

open Dialogue (Course)
open Network (Outcome Request Turn)
open Near (Wire.SignedTransaction)

/-- The request submits bytes. -/
def Submits (request : Request) (bytes : Bytes) : Prop :=
  ∃ text, request.payload = .call "broadcast_tx_commit" (some (.array [.string text])) ∧
    Bytes.Base64.decode? text = some bytes

/-- The bytes in front of the signature and its mark. -/
def unsigned (bytes : Bytes) : Bytes :=
  bytes.take (bytes.length - 65)

end NearChain

end TokenFaucet
