import TokenFaucet.Proofs.Bytes.Base64
import TokenFaucet.Proofs.Curve.Ed25519
import TokenFaucet.Proofs.Solana.Address
import TokenFaucet.Proofs.Solana.Inquiry
import TokenFaucet.Proofs.Solana.Wire

set_option autoImplicit false

attribute [local instance (2000)] instPowNat

namespace TokenFaucet.SolanaChain

open Dialogue (Course)
open Network (Outcome Request Turn)
open Solana (Wire.Transaction)

/-- The request submits a transaction. -/
def Submits (request : Request) (t : Wire.Transaction) : Prop :=
  ∃ text bytes, request.payload = .call "sendTransaction"
      (some (.array [.string text, .object [("encoding", .string "base64")]])) ∧
    Bytes.Base64.decode? text = some bytes ∧ Solana.Wire.decode? bytes = some t

/-- The transaction moves an amount from the signer's account to a receiver: the signer alone signs
the bytes of the message, and its one instruction is to move the amount from the first account of the
table to the second. -/
structure Pays (c : SolanaChain) (receiver : String) (amount : MinorUnits) (blockhash : Bytes)
    (t : Wire.Transaction) : Prop where
  signatures : t.signatures = [c.signer.key.sign t.signed]
  signing : t.message.signing = 1
  signingReadOnly : t.message.signingReadOnly = 0
  otherReadOnly : t.message.otherReadOnly = 1
  accounts : ∃ account, Bytes.Base58.decode receiver = .ok account ∧
    t.message.accounts = [c.signer.publicKey, account, List.replicate 32 0]
  blockhash : t.message.blockhash = blockhash
  instruction : ∃ data, t.message.instructions = [⟨2, [0, 1], data⟩] ∧
    Solana.Wire.transferData.whole? data = some (2, amount.toNat)

/-- A transfer asks for a blockhash, is answered with that one, and submits a transaction of which that
message is signed. -/
def Sends (c : SolanaChain) (receiver : String) (amount : MinorUnits) (blockhash message : Bytes) :
    Prop :=
  ∃ turns result asked submitted o₁ o₂ t, Course (c.send receiver amount).run turns result ∧
    turns = [⟨.exchange asked, o₁⟩, ⟨.exchange submitted, o₂⟩] ∧ AnswersBlockhash o₁ blockhash ∧
    Submits submitted t ∧ t.signed = message

theorem transferInput_of_isValid {receiver : String} {amount : MinorUnits}
    (valid : Solana.Address.isValid receiver) (small : amount.toNat < UInt64.size) :
    ∃ account, Bytes.Base58.decode receiver = .ok account ∧ account.length = 32 ∧
      transferInput receiver amount = .ok (account, .ofNat amount.toNat) := by
  obtain ⟨account, parsed⟩ := Solana.Address.parse?_of_isValid valid
  have decoded : Bytes.Base58.decode receiver = .ok account.bytes :=
    Bytes.Base58.decode_eq_ok_iff.2 (Solana.Address.parse?_eq_some_iff.1 parsed)
  refine ⟨account.bytes, decoded, account.length_bytes, ?_⟩
  rw [transferInput, parsed]
  exact if_pos small

theorem sized_transfer {c : SolanaChain} {receiver blockhash : Bytes} (lamports : UInt64)
    (account : receiver.length = 32) (block : blockhash.length = 32) :
    (c.transfer receiver lamports blockhash).Sized :=
  ⟨c.signer.key.length_publicKey, account, block⟩

/-- The bytes that are submitted for a transfer are read as a transaction that pays. -/
theorem pays_of_signed {c : SolanaChain} {receiver : String} {account blockhash : Bytes}
    {amount : MinorUnits} (decoded : Bytes.Base58.decode receiver = .ok account)
    (sized : account.length = 32) (block : blockhash.length = 32)
    (small : amount.toNat < UInt64.size) :
    ∃ t, Solana.Wire.decode? (c.signed (c.transfer account (.ofNat amount.toNat) blockhash)) =
        some t ∧ c.Pays receiver amount blockhash t := by
  have read := Solana.Wire.decode?_signedMessage
    (c.signer.key.length_sign (c.transfer account (.ofNat amount.toNat) blockhash).message)
    (sized_transfer (c := c) (.ofNat amount.toNat) sized block).wireMessage
  rw [Solana.Transfer.bytes_wireMessage] at read
  have data := (c.transfer account (.ofNat amount.toNat) blockhash).reads_instructionData.whole?
  have lamports : (UInt64.ofNat amount.toNat).toNat = amount.toNat := UInt64.toNat_ofNat_of_lt' small
  refine ⟨_, read, ?_⟩
  exact {
    signatures := rfl
    signing := rfl
    signingReadOnly := rfl
    otherReadOnly := rfl
    accounts := ⟨account, decoded, rfl⟩
    blockhash := rfl
    instruction := ⟨_, rfl, by rw [data, transfer, lamports]⟩ }

/-- The message that is signed is the one that is read. -/
theorem message_of_decode? {bytes : Bytes} {t : Wire.Transaction}
    (read : Solana.Wire.decode? bytes = some t) :
    Solana.Wire.message.whole? t.signed = some t.message := by
  unfold Solana.Wire.decode? at read
  split at read
  · cases read
  · next signatures signed =>
      obtain ⟨message, found, rfl⟩ := Option.map_eq_some_iff.1 read
      exact found

/-- A message tells who pays whom how much after which block. -/
theorem Pays.unique {c c' : SolanaChain} {receiver receiver' : String} {amount amount' : MinorUnits}
    {blockhash blockhash' : Bytes} {t t' : Wire.Transaction}
    (pays : c.Pays receiver amount blockhash t) (pays' : c'.Pays receiver' amount' blockhash' t')
    (same : t.message = t'.message) :
    c.signer.publicKey = c'.signer.publicKey ∧ receiver = receiver' ∧ amount = amount' ∧
      blockhash = blockhash' := by
  obtain ⟨account, decoded, accounts⟩ := pays.accounts
  obtain ⟨account', decoded', accounts'⟩ := pays'.accounts
  obtain ⟨data, instructions, moved⟩ := pays.instruction
  obtain ⟨data', instructions', moved'⟩ := pays'.instruction
  rw [same, accounts', List.cons.injEq, List.cons.injEq] at accounts
  obtain ⟨signers, rfl, -⟩ := accounts
  rw [same, instructions', List.cons.injEq, Solana.Wire.Instruction.mk.injEq] at instructions
  obtain ⟨⟨-, -, rfl⟩, -⟩ := instructions
  rw [moved', Option.some.injEq, Prod.mk.injEq] at moved
  refine ⟨signers.symm, Bytes.Base58.decode_injective decoded decoded', ?_, ?_⟩
  · obtain ⟨_, _⟩ := amount
    obtain ⟨_, _⟩ := amount'
    cases moved.2
    rfl
  · rw [← pays.blockhash, ← pays'.blockhash, same]

/-- The course of a transfer to a valid receiver. -/
theorem send_turns {c : SolanaChain} {receiver : String} {amount : MinorUnits} {turns : List Turn}
    {result : Except ChainError String} (valid : Solana.Address.isValid receiver)
    (small : amount.toNat < UInt64.size)
    (course : Course (c.send receiver amount).run turns result) :
    ∃ o₁ rest, turns = ⟨.exchange c.blockhashRequest, o₁⟩ :: rest ∧
      ∀ blockhash, AnswersBlockhash o₁ blockhash →
        ∃ submitted o₂ t, rest = [⟨.exchange submitted, o₂⟩] ∧ Submits submitted t ∧
          c.Pays receiver amount blockhash t := by
  obtain ⟨account, decoded, sized, input⟩ := transferInput_of_isValid valid small
  rw [c.send_eq input] at course
  obtain ⟨o₁, rest, rfl, onward⟩ := Network.course_inquire_bind_iff.1 course
  refine ⟨o₁, rest, rfl, fun blockhash answers => ?_⟩
  have answered := blockhashAnswer_eq_ok_iff (c := c).2 answers
  obtain ⟨e, failed, -⟩ | ⟨read, found, submission⟩ := onward
  · exact nomatch answered.symm.trans failed
  · cases answered.symm.trans found
    obtain ⟨o₂, rfl, -⟩ := Network.course_inquire_iff.1 submission
    obtain ⟨-, -, -, block⟩ := answers
    obtain ⟨t, decodes, pays⟩ := pays_of_signed (c := c) decoded sized block small
    exact ⟨_, o₂, t, rfl, ⟨_, _, rfl, Bytes.Base64.decode?_encode _, decodes⟩, pays⟩

theorem Submits.unique {request : Request} {t t' : Wire.Transaction} (submits : Submits request t)
    (submits' : Submits request t') : t = t' := by
  obtain ⟨text, bytes, payload, decoded, read⟩ := submits
  obtain ⟨text', bytes', payload', decoded', read'⟩ := submits'
  have texts : text = text' := by
    simpa only [payload, Network.Payload.call.injEq, Option.some.injEq, Json.array.injEq,
      List.cons.injEq, Json.string.injEq, true_and, and_true] using payload'
  subst texts
  cases decoded.symm.trans decoded'
  cases read.symm.trans read'
  rfl

/-- The message that a transfer to a valid receiver sends is read as that transfer. -/
theorem Sends.pays {c : SolanaChain} {receiver : String} {amount : MinorUnits}
    {blockhash message : Bytes} (sends : c.Sends receiver amount blockhash message)
    (valid : Solana.Address.isValid receiver) (small : amount.toNat < UInt64.size) :
    ∃ t, Solana.Wire.message.whole? message = some t.message ∧
      c.Pays receiver amount blockhash t := by
  obtain ⟨turns, result, asked, submitted, o₁, o₂, t, course, rfl, answers, submits, rfl⟩ := sends
  obtain ⟨_, _, first, rest⟩ := send_turns valid small course
  cases first
  obtain ⟨_, _, t', last, submits', pays⟩ := rest blockhash answers
  cases last
  cases submits.unique submits'
  obtain ⟨_, _, -, -, read⟩ := submits
  exact ⟨t, message_of_decode? read, pays⟩

def exampleReceiver : String := "11111111111111111111111111111112"

def largestAmount : MinorUnits := ⟨UInt64.size - 1, by decide⟩

end TokenFaucet.SolanaChain
