import TokenFaucet.Proofs.Chain.Submission
import TokenFaucet.Proofs.Evm.Submission
import TokenFaucet.Proofs.Near.Submission
import TokenFaucet.Proofs.Solana.Address
import TokenFaucet.Proofs.Solana.Submission

set_option autoImplicit false

attribute [local instance (2000)] instPowNat

namespace TokenFaucet

open Bytes.Reader (literal take)
open Network (Request SubmitsOnly)

/-- An account of a chain, as its family tells accounts apart. -/
inductive Account where
  | evm (bytes : Bytes)
  | solana (key : Bytes)
  | near (name : String)
deriving DecidableEq

namespace Evm.Wire

/-- The call that has a token's contract credit an account: the four bytes of the method, the account
in a word, and an amount in another. -/
def transferCall : Bytes.Reader Bytes := do
  literal [0xA9, 0x05, 0x9C, 0xBB]
  literal (List.replicate 12 0)
  let account ← take 20
  let _ ← take 32
  return account

/-- The account that a transaction credits: the one that it goes to, or the one that it has a token's
contract credit. -/
def Transaction.credited? (t : Transaction) : Option Bytes :=
  if t.input = [] then some t.target else transferCall.whole? t.input

theorem reads_transferCall (receiver : Evm.Address) (amount : MinorUnits) :
    transferCall.Reads (Evm.transferData receiver amount) receiver.bytes := by
  have spelled : Evm.transferData receiver amount =
      [0xA9, 0x05, 0x9C, 0xBB] ++ (List.replicate 12 0 ++ (receiver.bytes ++
        Evm.TokenMethod.amountWord amount)) := by
    rw [Evm.transferData, Evm.Address.addressWord_eq]
    simp only [List.append_assoc]
  have word : (Evm.TokenMethod.amountWord amount).length = 32 := Bytes.length_bigEndian ..
  rw [spelled, transferCall]
  refine (Bytes.Reader.reads_literal _).bind ((Bytes.Reader.reads_literal _).bind ?_)
  exact (Bytes.Reader.reads_take receiver.length_bytes).bind
    ((Bytes.Reader.reads_take word).last fun _ => receiver.bytes)

end Evm.Wire

namespace Solana.Wire

/-- The account that a message credits: the second one of its only instruction, which has the system
program move lamports. -/
def Message.credited? (m : Message) : Option Bytes :=
  match m.instructions with
  | [⟨program, [_, receiver], data⟩] =>
    match m.accounts[program.toNat]?, transferData.whole? data with
    | some account, some (2, _) =>
      if account = Address.systemProgram.bytes then m.accounts[receiver.toNat]? else none
    | _, _ => none
  | _ => none

end Solana.Wire

namespace EvmChain

/-- The account that a request has the chain credit. -/
def credited? (request : Request) : Option Bytes :=
  ((submitted? request).bind Evm.Wire.transaction.whole?).bind (·.credited?)

theorem credited?_transaction (c : EvmChain) (account : Evm.Address) (amount : MinorUnits)
    (contract : Option Evm.Address) (nonce gasPrice gas : Nat)
    (signature : Curve.Secp256k1.Signature) :
    ((c.transaction account amount contract nonce gasPrice gas).wireSigned signature).credited? =
      some account.bytes := by
  cases contract with
  | none => rfl
  | some contract =>
      change (if Evm.transferData account amount = [] then _ else
        Evm.Wire.transferCall.whole? (Evm.transferData account amount)) = _
      rw [if_neg (by simp [Evm.transferData])]
      exact (Evm.Wire.reads_transferCall account amount).whole?

theorem credited?_submissionRequest {c : EvmChain} {account : Evm.Address} {amount : MinorUnits}
    {contract : Option Evm.Address} {nonce gasPrice gas : Nat}
    (sized : (c.transaction account amount contract nonce gasPrice gas).Sized) :
    credited? (c.submissionRequest (c.transaction account amount contract nonce gasPrice gas)) =
      some account.bytes := by
  rw [credited?, submitted?_submissionRequest, Option.bind_some,
    (Evm.Transaction.reads_signed sized c.signer.key).whole?, Option.bind_some,
    credited?_transaction]

theorem submitsOnly_submit (c : EvmChain) (account : Evm.Address) (amount : MinorUnits)
    (contract : Option Evm.Address) :
    SubmitsOnly (fun request => request.client = c.client ∧ credited? request = some account.bytes)
      (c.submit account amount contract) := by
  rw [c.submit_eq]
  refine Network.submitsOnly_inquire_bind rfl fun _ nonce counted => ?_
  refine Network.submitsOnly_inquire_bind rfl fun _ gasPrice priced => ?_
  refine Network.submitsOnly_inquire_bind rfl fun _ gas estimated => ?_
  refine Network.submitsOnly_inquire ⟨rfl, credited?_submissionRequest ?_⟩
  exact c.sized_transaction account amount contract (countAnswer_lt counted) (priceAnswer_lt priced)
    (estimateAnswer_lt estimated)

theorem submitsOnly_send (c : EvmChain) {receiver : String} {account : Evm.Address}
    (read : address receiver = .ok account) (amount : MinorUnits) (token : Option String) :
    SubmitsOnly (fun request => request.client = c.client ∧ credited? request = some account.bytes)
      (c.send receiver amount token) := by
  cases readToken : tokenAddress token with
  | error e =>
      rw [c.send_of_badToken amount read readToken]
      exact (Network.quiet_throw e).submitsOnly
  | ok contract =>
      rw [c.send_eq amount read readToken]
      split
      · exact Network.submitsOnly_holding (c.submitsOnly_submit account amount contract)
      · exact c.submitsOnly_submit account amount contract

end EvmChain

namespace SolanaChain

def submitted? (request : Request) : Option Bytes :=
  match request.payload with
  | .call "sendTransaction" (some (.array (.string text :: _))) => Bytes.Base64.decode? text
  | _ => none

/-- The account that a request has the cluster credit. -/
def credited? (request : Request) : Option Bytes :=
  ((submitted? request).bind Solana.Wire.decode?).bind (·.message.credited?)

theorem credited?_wireMessage (t : Solana.Transfer) :
    t.wireMessage.credited? = some t.receiver := by
  have read := t.reads_instructionData.whole?
  rw [Solana.Wire.Message.credited?]
  simp [Solana.Transfer.wireMessage, read]

theorem submitted?_submissionRequest (c : SolanaChain) (bytes : Bytes) :
    submitted? (c.submissionRequest bytes) = some bytes :=
  Bytes.Base64.decode?_encode bytes

theorem credited?_submissionRequest {c : SolanaChain} {receiver blockhash : Bytes}
    (lamports : UInt64) (sized : (c.transfer receiver lamports blockhash).Sized) :
    credited? (c.submissionRequest (c.signed (c.transfer receiver lamports blockhash))) =
      some receiver := by
  have read := Solana.Wire.decode?_signedMessage
    (c.signer.key.length_sign (c.transfer receiver lamports blockhash).message) sized.wireMessage
  rw [Solana.Transfer.bytes_wireMessage] at read
  rw [credited?, submitted?_submissionRequest, Option.bind_some, signed, read, Option.bind_some,
    credited?_wireMessage]
  rfl

theorem submitsOnly_send (c : SolanaChain) {receiver : String} {account : Solana.Address}
    (read : Solana.Address.parse? receiver = some account) (amount : MinorUnits) :
    SubmitsOnly (fun request => request.client = c.client ∧ credited? request = some account.bytes)
      (c.send receiver amount) := by
  cases input : transferInput receiver amount with
  | error e =>
      rw [c.send_of_error input]
      exact (Network.quiet_throw e).submitsOnly
  | ok parts =>
      obtain ⟨bytes, lamports⟩ := parts
      have same : bytes = account.bytes := by
        unfold transferInput at input
        rw [read] at input
        dsimp only at input
        split at input <;> cases input
        rfl
      rw [c.send_eq input, same]
      refine Network.submitsOnly_inquire_bind rfl fun _ blockhash answered => ?_
      obtain ⟨-, -, -, block⟩ := blockhashAnswer_eq_ok_iff.1 answered
      have sized := sized_transfer (c := c) lamports account.length_bytes block
      exact Network.submitsOnly_inquire ⟨rfl, credited?_submissionRequest lamports sized⟩

end SolanaChain

namespace Near.Transfer

/-- The nonce has eight bytes; what exceeds them is left out. -/
def wrapped (t : Transfer) : Transfer :=
  { t with nonce := t.nonce % UInt64.size }

theorem encode_wrapped (t : Transfer) : t.wrapped.encode = t.encode := by
  have nonce : Bytes.littleEndian 8 (t.nonce % UInt64.size) = Bytes.littleEndian 8 t.nonce :=
    Bytes.littleEndian_mod 8 t.nonce
  simp only [encode, wrapped, nonce]

end Near.Transfer

namespace NearChain

def submitted? (request : Request) : Option Bytes :=
  match request.payload with
  | .call "broadcast_tx_commit" (some (.array [.string text])) => Bytes.Base64.decode? text
  | _ => none

/-- The account that a request has the cluster credit. -/
def credited? (request : Request) : Option String :=
  ((submitted? request).bind Near.Wire.signedTransaction.whole?).map (·.transaction.receiverId)

theorem submitted?_submissionRequest (c : NearChain) (bytes : Bytes) :
    submitted? (c.submissionRequest bytes) = some bytes :=
  Bytes.Base64.decode?_encode bytes

theorem credited?_submissionRequest {c : NearChain} {receiver : String} {deposit : Nat}
    {nonce : UInt64} {blockId : Bytes}
    (sized : (c.transfer receiver deposit nonce blockId).wrapped.Sized) :
    credited? (c.submissionRequest ((c.transfer receiver deposit nonce blockId).signed c.signer)) =
      some receiver := by
  have read := (Near.Transfer.reads_signed sized (c.signer.key.length_sign
    (Hash.sha256 (c.transfer receiver deposit nonce blockId).encode))).whole?
  rw [Near.Transfer.encode_wrapped] at read
  rw [credited?, submitted?_submissionRequest, Option.bind_some, Near.Transfer.signed, read]
  rfl

theorem sized_wrapped {c : NearChain} {receiver : String} {amount : MinorUnits} {deposit : Nat}
    (own : Near.AccountId.isValid c.signer.accountId) (valid : Near.AccountId.isValid receiver)
    (fits : NearChain.deposit amount = .ok deposit) (nonce : UInt64) {blockId : Bytes}
    (block : blockId.length = 32) : (c.transfer receiver deposit nonce blockId).wrapped.Sized where
  signerId := Near.AccountId.length_of_isValid own
  publicKey := c.signer.key.length_publicKey
  nonce := Nat.mod_lt _ (by decide)
  receiverId := Near.AccountId.length_of_isValid valid
  blockId := block
  deposit := by
    unfold NearChain.deposit at fits
    split at fits <;> cases fits
    assumption

theorem submitsOnly_send (c : NearChain) {receiver : String}
    (own : Near.AccountId.isValid c.signer.accountId) (valid : Near.AccountId.isValid receiver)
    (amount : MinorUnits) :
    SubmitsOnly (fun request => request.client = c.client ∧ credited? request = some receiver)
      (c.send receiver amount) := by
  cases fits : deposit amount with
  | error e =>
      rw [c.send_of_error fits]
      exact (Network.quiet_throw e).submitsOnly
  | ok units =>
      rw [c.send_eq fits]
      refine Network.submitsOnly_inquire_bind rfl fun _ nonce _ => ?_
      refine Network.submitsOnly_inquire_bind rfl fun _ blockId answered => ?_
      obtain ⟨-, -, -, block⟩ := blockAnswer_eq_ok_iff.1 answered
      have sized := sized_wrapped own valid fits nonce block
      exact Network.submitsOnly_inquire ⟨rfl, credited?_submissionRequest sized⟩

end NearChain

namespace Chain

/-- The account that a text denotes on a chain. -/
def denoted? : Chain → String → Option Account
  | evm _, text => (Evm.Address.parse text).toOption.map fun a => .evm a.bytes
  | solana _, text => (Solana.Address.parse? text).map fun a => .solana a.bytes
  | near _, text => some (.near text)

/-- The account that a request has a chain credit. -/
def credited? : Chain → Request → Option Account
  | evm _, request => (EvmChain.credited? request).map .evm
  | solana _, request => (SolanaChain.credited? request).map .solana
  | near _, request => (NearChain.credited? request).map .near

/-- The account that a chain pays from: the one of the key that signs, or the one that the key may act
for. -/
def payer : Chain → Account
  | evm c => .evm (EvmSigner.ofKey c.signer.key).address.bytes
  | solana c => .solana c.signer.publicKey
  | near c => .near c.signer.accountId

/-- The signer of a chain has an account: on EVM chains the one of its key, on NEAR one with a valid
name. -/
def HasPayer : Chain → Prop
  | evm c => c.signer = .ofKey c.signer.key
  | solana _ => True
  | near c => Near.AccountId.isValid c.signer.accountId

/-- All that a transfer submits credits the account that its receiver denotes. -/
theorem submitsOnly_send (c : Chain) (pays : c.HasPayer) {receiver : String}
    (receivable : c.isReceiver receiver = true) (amount : MinorUnits) (token : Option String) :
    SubmitsOnly (fun request => request.client = c.client ∧
      ∃ account, c.denoted? receiver = some account ∧ c.credited? request = some account)
      (c.send receiver amount token) := by
  cases c with
  | evm c =>
      obtain ⟨account, read⟩ := EvmChain.address_of_isValid receivable
      have denoted : Evm.Address.parse receiver = .ok account := mapError_eq_ok_iff.1 read
      refine (c.submitsOnly_send read amount token).imp ?_
      rintro request ⟨own, credits⟩
      exact ⟨own, .evm account.bytes, by rw [denoted?, denoted]; rfl, by rw [credited?, credits]; rfl⟩
  | solana c =>
      obtain ⟨account, read⟩ := Solana.Address.parse?_of_isValid receivable
      refine (c.submitsOnly_send read amount).imp ?_
      rintro request ⟨own, credits⟩
      exact ⟨own, .solana account.bytes, by rw [denoted?, read]; rfl, by rw [credited?, credits]; rfl⟩
  | near c =>
      refine (c.submitsOnly_send pays receivable amount).imp ?_
      rintro request ⟨own, credits⟩
      exact ⟨own, .near receiver, rfl, by rw [credited?, credits]; rfl⟩

end Chain

end TokenFaucet
