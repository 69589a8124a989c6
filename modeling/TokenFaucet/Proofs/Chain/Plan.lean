import TokenFaucet.Proofs.Chain.FailFast

set_option autoImplicit false

namespace TokenFaucet

open Network (FailsFast inquire)

variable {α : Type} {plan : List RemoteCall}

/-- Holding a lane is no call. -/
theorem Network.FailsFast.holding {program : Network.Attempt ChainError α}
    (fast : FailsFast plan program) (lane : String) :
    FailsFast plan (ExceptT.mk (Network.holding lane program.run)) := by
  intro turns r course
  obtain ⟨inner, rfl, held⟩ := Network.course_holding_iff.1 course
  obtain ⟨made, same, ends⟩ := fast _ _ held
  refine ⟨made, ?_, ends⟩
  change Network.exchanges _ = _
  rw [Network.exchanges_cons_acquire, Network.exchanges_append]
  exact (List.append_nil _).trans same

namespace EvmChain

variable (c : EvmChain)

theorem address_error {text : String} {e : ChainError} (refused : address text = .error e) :
    e.isValidation = true := by
  obtain ⟨why, -, rfl⟩ := mapError_eq_error_iff.1 refused
  rfl

theorem tokenAddress_error {token : Option String} {e : ChainError}
    (refused : tokenAddress token = .error e) : e.isValidation = true := by
  cases token with
  | none => cases refused
  | some text => exact address_error (map_eq_error_iff.1 refused)

/-- The signer's account is read back from its text. -/
theorem address_signer : address c.signer.address.checksumText = .ok c.signer.address :=
  mapError_eq_ok_iff.2 (Evm.Address.parse_checksumText _)

theorem failsFast_balance :
    FailsFast [.evmBalance] (c.balance c.signer.address.checksumText none) := by
  rw [c.balance_native_eq c.address_signer]
  exact c.reports_balance.failsFast ⟨_, rfl, trivial⟩

theorem failsFast_balance_token (token : String) :
    FailsFast [.tokenBalance c.signer.address]
      (c.balance c.signer.address.checksumText (some token)) := by
  cases read : address token with
  | error e =>
      rw [c.balance_of_badToken c.address_signer read]
      exact keepsTo_throw (by simp [address_error read])
  | ok contract =>
      rw [c.balance_token_eq c.address_signer read]
      refine (c.reports_tokenAnswer rfl).failsFast ⟨_, rfl, contract.text, ?_⟩
      rw [Evm.TokenMethod.callData, Evm.Address.addressWord_eq]

theorem failsFast_tokenSymbol (token : String) :
    FailsFast [.tokenSymbol] (c.tokenSymbol token) := by
  cases read : address token with
  | error e =>
      rw [c.tokenSymbol_of_badToken read]
      exact keepsTo_throw (by simp [address_error read])
  | ok contract =>
      rw [c.tokenSymbol_eq read]
      exact (c.reports_tokenAnswer rfl).failsFast ⟨_, rfl, contract.text, rfl⟩

theorem failsFast_submit (receiver : Evm.Address) (amount : MinorUnits)
    (token : Option Evm.Address) :
    FailsFast [.transactionCount, .gasPrice, .gasEstimate, .evmSubmission]
      (c.submit receiver amount token) := by
  have count : FailsFast [.transactionCount] (inquire c.countRequest c.countAnswer) :=
    c.reports_count.failsFast ⟨_, rfl, trivial⟩
  have price : FailsFast [.gasPrice] (inquire c.priceRequest c.priceAnswer) :=
    c.reports_price.failsFast ⟨_, rfl, trivial⟩
  have estimate : FailsFast [.gasEstimate]
      (inquire (c.estimateRequest receiver amount token) c.estimateAnswer) :=
    c.reports_estimate.failsFast ⟨_, rfl, trivial⟩
  rw [c.submit_eq]
  exact count.bind fun _ _ _ => price.bind fun _ _ _ => estimate.bind fun _ _ _ =>
    c.reports_submission.failsFast ⟨_, rfl, trivial⟩

theorem failsFast_send (receiver : String) (amount : MinorUnits) (token : Option String) :
    FailsFast [.transactionCount, .gasPrice, .gasEstimate, .evmSubmission]
      (c.send receiver amount token) := by
  cases readReceiver : address receiver with
  | error e =>
      rw [c.send_of_badReceiver amount token readReceiver]
      exact keepsTo_throw (by simp [address_error readReceiver])
  | ok account =>
      cases readToken : tokenAddress token with
      | error e =>
          rw [c.send_of_badToken amount readReceiver readToken]
          exact keepsTo_throw (by simp [tokenAddress_error readToken])
      | ok contract =>
          rw [c.send_eq amount readReceiver readToken]
          split
          · exact (c.failsFast_submit account amount contract).holding _
          · exact c.failsFast_submit account amount contract

end EvmChain

namespace SolanaChain

variable (c : SolanaChain)

theorem transferInput_error {address : String} {amount : MinorUnits} {e : ChainError}
    (refused : transferInput address amount = .error e) : e.isValidation = true := by
  unfold transferInput at refused
  split at refused
  · cases refused
    rfl
  · split at refused <;> cases refused
    rfl

theorem failsFast_balance (address : String) : FailsFast [.solanaBalance] (c.balance address) := by
  rw [c.balance_eq]
  exact c.reports_balance.failsFast ⟨_, rfl, trivial⟩

theorem failsFast_send (receiver : String) (amount : MinorUnits) :
    FailsFast [.blockhash, .solanaSubmission] (c.send receiver amount) := by
  cases input : transferInput receiver amount with
  | error e =>
      rw [c.send_of_error input]
      exact keepsTo_throw (by simp [transferInput_error input])
  | ok parts =>
      rw [c.send_eq input]
      exact (c.reports_blockhash.failsFast ⟨_, rfl, trivial⟩).bind fun _ _ _ =>
        c.reports_submission.failsFast ⟨_, rfl, trivial⟩

end SolanaChain

namespace NearChain

variable (c : NearChain)

theorem deposit_error {amount : MinorUnits} {e : ChainError} (refused : deposit amount = .error e) :
    e.isValidation = true := by
  unfold deposit at refused
  split at refused <;> cases refused
  rfl

theorem failsFast_balance (account : String) : FailsFast [.nearAccount] (c.balance account) := by
  rw [c.balance_eq]
  exact c.reports_balance.failsFast ⟨_, rfl, _, rfl⟩

theorem failsFast_send (receiver : String) (amount : MinorUnits) :
    FailsFast [.accessKey, .block, .nearSubmission] (c.send receiver amount) := by
  cases fits : deposit amount with
  | error e =>
      rw [c.send_of_error fits]
      exact keepsTo_throw (by simp [deposit_error fits])
  | ok units =>
      rw [c.send_eq fits]
      exact (c.reports_nonce.failsFast ⟨_, rfl, _, rfl⟩).bind fun _ _ _ =>
        (c.reports_block.failsFast ⟨_, rfl, trivial⟩).bind fun _ _ _ =>
          c.reports_submission.failsFast ⟨_, rfl, trivial⟩

end NearChain

namespace Chain

/-- The calls that tell what the signer holds. -/
def fundsCalls : Chain → Option String → List RemoteCall
  | evm _, none => [.evmBalance]
  | evm c, some _ => [.tokenBalance c.signer.address]
  | solana _, _ => [.solanaBalance]
  | near _, _ => [.nearAccount]

/-- The calls that a transfer is sent with. -/
def sendCalls : Chain → List RemoteCall
  | evm _ => [.transactionCount, .gasPrice, .gasEstimate, .evmSubmission]
  | solana _ => [.blockhash, .solanaSubmission]
  | near _ => [.accessKey, .block, .nearSubmission]

theorem failsFast_balance (c : Chain) (token : Option String) :
    FailsFast (c.fundsCalls token) (c.balance c.signerAddress token) := by
  cases c with
  | evm c =>
      cases token with
      | none => exact c.failsFast_balance
      | some token => exact c.failsFast_balance_token token
  | solana c => exact c.failsFast_balance _
  | near c => exact c.failsFast_balance _

theorem failsFast_send (c : Chain) (receiver : String) (amount : MinorUnits)
    (token : Option String) : FailsFast c.sendCalls (c.send receiver amount token) := by
  cases c with
  | evm c => exact c.failsFast_send receiver amount token
  | solana c => exact c.failsFast_send receiver amount
  | near c => exact c.failsFast_send receiver amount

end Chain

end TokenFaucet
