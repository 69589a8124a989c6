import TokenFaucet.Proofs.Bytes.Text
import TokenFaucet.Proofs.Curve.Ed25519
import TokenFaucet.Proofs.Near.Answers

set_option autoImplicit false

attribute [local instance (2000)] instPowNat

namespace TokenFaucet

namespace Near

theorem Transfer.encode_eq (t : Transfer) :
    t.encode = (textBytes t.signerId ++ keyMark :: t.publicKey) ++ (Bytes.littleEndian 8 t.nonce ++
      (Bytes.littleEndian 4 (Bytes.ofString t.receiverId).length ++ (Bytes.ofString t.receiverId ++
        (t.blockId ++ ((Bytes.littleEndian 4 1 ++ [transferMark]) ++
          Bytes.littleEndian 16 t.deposit))))) := by
  simp only [encode, textBytes, List.append_assoc, List.cons_append, List.nil_append]

/-- One signer's transactions tell the nonce, the receiver, the block and the deposit. The length of
the receiver's name shows in the length of the whole. -/
theorem Transfer.encode_injective {t t' : Transfer} (signer : t.signerId = t'.signerId)
    (key : t.publicKey = t'.publicKey) (blocks : t.blockId.length = t'.blockId.length)
    (nonces : t.nonce % UInt64.size = t'.nonce % UInt64.size → t.nonce = t'.nonce)
    (deposit : t.deposit < 2 ^ NearChain.depositBits)
    (deposit' : t'.deposit < 2 ^ NearChain.depositBits)
    (same : t.encode = t'.encode) : t = t' := by
  have word : UInt64.size = 2 ^ 64 := rfl
  have wide : 2 ^ NearChain.depositBits = 2 ^ 128 := rfl
  rw [word] at nonces
  rw [encode_eq, encode_eq, signer, key] at same
  have lengths := congrArg List.length same
  simp only [List.length_append, Bytes.length_littleEndian] at lengths
  have receivers : (Bytes.ofString t.receiverId).length = (Bytes.ofString t'.receiverId).length := by
    omega
  obtain ⟨nonce, rest⟩ := List.append_inj (List.append_cancel_left same) (by simp)
  obtain ⟨-, rest⟩ := List.append_inj rest (by simp)
  obtain ⟨receiver, rest⟩ := List.append_inj rest receivers
  obtain ⟨block, rest⟩ := List.append_inj rest blocks
  have deposits := congrArg Bytes.toNatLE (List.append_cancel_left rest)
  have nonceValues := congrArg Bytes.toNatLE nonce
  simp only [Bytes.toNatLE_littleEndian] at deposits nonceValues
  have name := Bytes.ofString_injective receiver
  have number : t.nonce = t'.nonce := nonces (by omega)
  have units : t.deposit = t'.deposit := by omega
  obtain ⟨_, _, _, _, _, _⟩ := t
  obtain ⟨_, _, _, _, _, _⟩ := t'
  simp only at signer key name number block units
  rw [signer, key, name, number, block, units]

end Near

namespace NearChain

theorem length_of_blockAnswer {c : NearChain} {outcome : Network.Outcome} {blockId : Bytes}
    (answered : c.blockAnswer outcome = .ok blockId) : blockId.length = 32 := by
  obtain ⟨_, _, _, length⟩ := blockAnswer_eq_ok_iff.1 answered
  exact length

theorem deposit_eq_ok {amount : MinorUnits} {units : Nat} (fits : deposit amount = .ok units) :
    units = amount.toNat ∧ units < 2 ^ depositBits := by
  unfold deposit at fits
  split at fits
  · next small =>
      cases fits
      exact ⟨rfl, small⟩
  · cases fits

/-- The bytes that are submitted tell the receiver, the deposit, the nonce and the block. -/
theorem signed_eq_iff (c : NearChain) {receiver receiver' : String} {units units' : Nat}
    {nonce nonce' : UInt64} {blockId blockId' : Bytes} (fits : units < 2 ^ depositBits)
    (fits' : units' < 2 ^ depositBits) (blocks : blockId.length = blockId'.length) :
    (c.transfer receiver units nonce blockId).signed c.signer =
        (c.transfer receiver' units' nonce' blockId').signed c.signer ↔
      receiver = receiver' ∧ units = units' ∧ nonce = nonce' ∧ blockId = blockId' := by
  constructor
  · intro same
    have word : UInt64.size = 2 ^ 64 := rfl
    have bound := nonce.toNat_lt
    have bound' := nonce'.toNat_lt
    have encoded := List.append_inj_left' same (by
      simp only [List.length_cons, Curve.Ed25519.PrivateKey.length_sign])
    have transfers : c.transfer receiver units nonce blockId =
        c.transfer receiver' units' nonce' blockId' := by
      refine Near.Transfer.encode_injective rfl rfl blocks ?_ fits fits' encoded
      simp only [transfer]
      rw [word]
      omega
    simp only [transfer, Near.Transfer.mk.injEq, true_and] at transfers
    obtain ⟨nonces, receivers, blocks, deposits⟩ := transfers
    exact ⟨receivers, deposits, UInt64.toNat_inj.1 (by omega), blocks⟩
  · rintro ⟨rfl, rfl, rfl, rfl⟩
    rfl

end NearChain

end TokenFaucet
