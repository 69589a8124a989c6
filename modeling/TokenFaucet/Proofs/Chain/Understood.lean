import TokenFaucet.Proofs.Chain.Plan
import TokenFaucet.Proofs.Solana.Address

set_option autoImplicit false

attribute [local instance (2000)] instPowNat

namespace TokenFaucet

open Dialogue (FailsOnly)
open Network (Outcome Request inquire)

/-- The error finds no fault with an address, nor with the kind of the chain. -/
def ChainError.Understood (e : ChainError) : Prop :=
  e.category ≠ .address ∧ e.category ≠ .unsupported

theorem ChainError.understood_of_isRemote {e : ChainError} (remote : e.isRemote = true) :
    e.Understood := by
  constructor
  · intro address
    rw [isRemote, address] at remote
    cases remote
  · intro unsupported
    rw [isRemote, unsupported] at remote
    cases remote

variable {α : Type}

theorem RemoteOnly.understood {answer : Outcome → Except ChainError α} (remote : RemoteOnly answer)
    (request : Request) : FailsOnly ChainError.Understood (inquire request answer) :=
  Network.failsOnly_inquire fun outcome e failed =>
    ChainError.understood_of_isRemote (remote outcome e failed)

namespace EvmChain

variable (c : EvmChain) {holder receiver text : String} {token : Option String}
  {account contract : Evm.Address} {contract? : Option Evm.Address}

theorem understood_balance (readHolder : address holder = .ok account)
    (readToken : tokenAddress token = .ok contract?) :
    FailsOnly ChainError.Understood (c.balance holder token) := by
  cases token with
  | none =>
      rw [c.balance_native_eq readHolder]
      exact (c.remoteOnly_rpcAnswer _ _).understood _
  | some text =>
      obtain ⟨contract, read, -⟩ := map_eq_ok_iff.1 readToken
      rw [c.balance_token_eq readHolder read]
      exact (c.remoteOnly_tokenAnswer _ _).understood _

theorem understood_tokenSymbol (read : address text = .ok contract) :
    FailsOnly ChainError.Understood (c.tokenSymbol text) := by
  rw [c.tokenSymbol_eq read]
  exact (c.remoteOnly_tokenAnswer _ _).understood _

theorem understood_tokenDecimals (read : address text = .ok contract) :
    FailsOnly ChainError.Understood (c.tokenDecimals text) := by
  rw [c.tokenDecimals_eq read]
  exact (c.remoteOnly_tokenAnswer _ _).understood _

theorem understood_submit (receiver : Evm.Address) (amount : MinorUnits)
    (token : Option Evm.Address) :
    FailsOnly ChainError.Understood (c.submit receiver amount token) := by
  rw [c.submit_eq]
  refine ((c.remoteOnly_rpcAnswer _ _).understood _).bind fun nonce => ?_
  refine ((c.remoteOnly_rpcAnswer _ _).understood _).bind fun gasPrice => ?_
  refine ((c.remoteOnly_rpcAnswer _ _).understood _).bind fun estimate => ?_
  exact c.remoteOnly_submission.understood _

theorem understood_send (amount : MinorUnits) (readReceiver : address receiver = .ok account)
    (readToken : tokenAddress token = .ok contract?) :
    FailsOnly ChainError.Understood (c.send receiver amount token) := by
  rw [c.send_eq amount readReceiver readToken]
  split
  · exact Network.failsOnly_holding (c.understood_submit account amount contract?)
  · exact c.understood_submit account amount contract?

end EvmChain

namespace SolanaChain

variable (c : SolanaChain) {receiver : String} {account : Solana.Address} {amount : MinorUnits}

/-- An account whose text can be read is refused by the amount alone. -/
theorem understood_transferInput {e : ChainError}
    (read : Solana.Address.parse? receiver = some account)
    (refused : transferInput receiver amount = .error e) : e.Understood := by
  unfold transferInput at refused
  rw [read] at refused
  dsimp only at refused
  split at refused <;> cases refused
  exact ⟨nofun, nofun⟩

theorem understood_balance (text : String) : FailsOnly ChainError.Understood (c.balance text) := by
  rw [c.balance_eq]
  exact c.remoteOnly_balance.understood _

theorem understood_send (amount : MinorUnits)
    (read : Solana.Address.parse? receiver = some account) :
    FailsOnly ChainError.Understood (c.send receiver amount) := by
  cases input : transferInput receiver amount with
  | error e =>
      rw [c.send_of_error input]
      exact Dialogue.failsOnly_throw (understood_transferInput read input)
  | ok parts =>
      rw [c.send_eq input]
      refine (c.remoteOnly_blockhash.understood _).bind fun blockhash => ?_
      exact c.remoteOnly_submission.understood _

end SolanaChain

namespace NearChain

variable (c : NearChain)

theorem understood_deposit {amount : MinorUnits} {e : ChainError}
    (refused : deposit amount = .error e) : e.Understood := by
  unfold deposit at refused
  split at refused <;> cases refused
  exact ⟨nofun, nofun⟩

theorem understood_balance (text : String) : FailsOnly ChainError.Understood (c.balance text) := by
  rw [c.balance_eq]
  exact c.remoteOnly_balance.understood _

/-- An account's name is sent as it is. -/
theorem understood_send (receiver : String) (amount : MinorUnits) :
    FailsOnly ChainError.Understood (c.send receiver amount) := by
  cases fits : deposit amount with
  | error e =>
      rw [c.send_of_error fits]
      exact Dialogue.failsOnly_throw (understood_deposit fits)
  | ok units =>
      rw [c.send_eq fits]
      refine ((c.remoteOnly_view _).understood _).bind fun nonce => ?_
      refine (c.remoteOnly_block.understood _).bind fun blockId => ?_
      exact c.remoteOnly_submission.understood _

end NearChain

namespace Chain

/-- A text is an account to the code that makes the requests of the chain. The name of a NEAR account
goes into them as it is, so it has to be a name. -/
def Reads : Chain → String → Prop
  | evm _, text => ∃ account, EvmChain.address text = .ok account
  | solana _, text => ∃ account, Solana.Address.parse? text = some account
  | near _, text => Near.AccountId.isValid text = true

variable {c : Chain} {text : String} {token : Option String} {contract : Evm.Address}
  {contract? : Option Evm.Address}

/-- A text that may name a receiver is an account. -/
theorem reads_of_isReceiver (receivable : c.isReceiver text = true) : c.Reads text := by
  cases c with
  | evm c => exact EvmChain.address_of_isValid receivable
  | solana c => exact Solana.Address.parse?_of_isValid receivable
  | near c => exact receivable

theorem understood_balance (c : Chain) (readToken : EvmChain.tokenAddress token = .ok contract?) :
    FailsOnly ChainError.Understood (c.balance c.signerAddress token) := by
  cases c with
  | evm c => exact c.understood_balance c.address_signer readToken
  | solana c => exact c.understood_balance _
  | near c => exact c.understood_balance _

theorem understood_tokenSymbol (family : c.kind = .evm)
    (read : EvmChain.address text = .ok contract) :
    FailsOnly ChainError.Understood (c.tokenSymbol text) := by
  cases c with
  | evm c => exact c.understood_tokenSymbol read
  | solana c => cases family
  | near c => cases family

theorem understood_tokenDecimals (family : c.kind = .evm)
    (read : EvmChain.address text = .ok contract) :
    FailsOnly ChainError.Understood (c.tokenDecimals text) := by
  cases c with
  | evm c => exact c.understood_tokenDecimals read
  | solana c => cases family
  | near c => cases family

theorem understood_send (amount : MinorUnits) (reads : c.Reads text)
    (readToken : EvmChain.tokenAddress token = .ok contract?) :
    FailsOnly ChainError.Understood (c.send text amount token) := by
  cases c with
  | evm c =>
      obtain ⟨account, read⟩ := reads
      exact c.understood_send amount read readToken
  | solana c =>
      obtain ⟨account, read⟩ := reads
      exact c.understood_send amount read
  | near c => exact c.understood_send text amount

end Chain

end TokenFaucet
