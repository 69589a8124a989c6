import TokenFaucet.Proofs.Bytes.Text
import TokenFaucet.Proofs.Solana.Inquiry

set_option autoImplicit false

attribute [local instance (2000)] instPowNat

namespace TokenFaucet

namespace Solana

theorem Transfer.length_instructionData (t : Transfer) : t.instructionData.length = 12 := by
  simp only [instructionData, List.length_append, Bytes.length_littleEndian]

theorem Transfer.lamports_of_instructionData {t t' : Transfer}
    (same : t.instructionData = t'.instructionData) : t.lamports = t'.lamports := by
  simp only [instructionData, List.append_cancel_left_eq] at same
  have value := congrArg Bytes.toNatLE same
  simp only [Bytes.toNatLE_littleEndian] at value
  have bound := t.lamports.toNat_lt
  have bound' := t'.lamports.toNat_lt
  apply UInt64.toNat_inj.1
  omega

/-- The message of a transfer between accounts of 32 bytes, part by part. -/
theorem Transfer.message_eq (t : Transfer) :
    t.message = ([1, 0, 1] ++ shortLength 3 ++ t.sender) ++ (t.receiver ++
      (Address.systemProgram.bytes ++ (t.blockhash ++
        ((shortLength 1 ++ [2] ++ shortLength 2 ++ [0, 1] ++ shortLength 12) ++
          t.instructionData)))) := by
  simp only [message, length_instructionData, List.append_assoc]

/-- One signer's messages tell the receiver, the lamports and the blockhash. -/
theorem Transfer.message_injective {t t' : Transfer} (sender : t.sender = t'.sender)
    (receivers : t.receiver.length = t'.receiver.length)
    (blockhashes : t.blockhash.length = t'.blockhash.length) (same : t.message = t'.message) :
    t = t' := by
  rw [message_eq, message_eq, sender] at same
  obtain ⟨receiver, rest⟩ := List.append_inj (List.append_cancel_left same) receivers
  obtain ⟨blockhash, rest⟩ := List.append_inj (List.append_cancel_left rest) blockhashes
  have lamports := lamports_of_instructionData (List.append_cancel_left rest)
  obtain ⟨_, _, _, _⟩ := t
  obtain ⟨_, _, _, _⟩ := t'
  simp only at sender receiver blockhash lamports
  rw [sender, receiver, blockhash, lamports]

theorem Transfer.length_message {t t' : Transfer} (sender : t.sender = t'.sender)
    (receivers : t.receiver.length = t'.receiver.length)
    (blockhashes : t.blockhash.length = t'.blockhash.length) :
    t.message.length = t'.message.length := by
  rw [message_eq, message_eq, sender]
  simp only [List.length_append, length_instructionData]
  omega

end Solana

namespace SolanaChain

theorem length_of_blockhashAnswer {c : SolanaChain} {outcome : Network.Outcome} {blockhash : Bytes}
    (answered : c.blockhashAnswer outcome = .ok blockhash) : blockhash.length = 32 := by
  obtain ⟨_, _, _, length⟩ := blockhashAnswer_eq_ok_iff.1 answered
  exact length

theorem transferInput_eq_ok {address : String} {amount : MinorUnits} {receiver : Bytes}
    {lamports : UInt64} (input : transferInput address amount = .ok (receiver, lamports)) :
    ∃ account, Solana.Address.parse? address = some account ∧ receiver = account.bytes ∧
      lamports = .ofNat amount.toNat ∧ amount.toNat < UInt64.size := by
  unfold transferInput at input
  split at input
  · cases input
  · next account parsed =>
      split at input
      · next small =>
          cases input
          exact ⟨account, parsed, rfl, rfl, small⟩
      · cases input

/-- The bytes that are submitted tell the receiver, the lamports and the blockhash; the signature
depends on nothing else. -/
theorem signed_eq_iff (c : SolanaChain) {receiver receiver' blockhash blockhash' : Bytes}
    {lamports lamports' : UInt64} (receivers : receiver.length = receiver'.length)
    (blockhashes : blockhash.length = blockhash'.length) :
    c.signed (c.transfer receiver lamports blockhash) =
        c.signed (c.transfer receiver' lamports' blockhash') ↔
      receiver = receiver' ∧ lamports = lamports' ∧ blockhash = blockhash' := by
  constructor
  · intro same
    have lengths : (c.transfer receiver lamports blockhash).message.length =
        (c.transfer receiver' lamports' blockhash').message.length :=
      Solana.Transfer.length_message rfl receivers blockhashes
    obtain ⟨-, messages⟩ := List.append_inj' same lengths
    have transfers : c.transfer receiver lamports blockhash =
        c.transfer receiver' lamports' blockhash' :=
      Solana.Transfer.message_injective rfl receivers blockhashes messages
    cases transfers
    exact ⟨rfl, rfl, rfl⟩
  · rintro ⟨rfl, rfl, rfl⟩
    rfl

end SolanaChain

end TokenFaucet
