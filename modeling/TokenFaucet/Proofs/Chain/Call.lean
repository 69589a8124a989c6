import TokenFaucet.Chain.Basic
import TokenFaucet.Proofs.Evm.Address
import TokenFaucet.Proofs.Evm.Outcomes
import TokenFaucet.Proofs.Near.Answers
import TokenFaucet.Proofs.Solana.Inquiry

set_option autoImplicit false

attribute [local instance (2000)] instPowNat

namespace TokenFaucet

open Network (Outcome Request)

/-- A call of a remote method. -/
inductive RemoteCall where
  | evmBalance
  | tokenSymbol
  | tokenBalance (holder : Evm.Address)
  | transactionCount
  | gasPrice
  | gasEstimate
  | evmSubmission
  | solanaBalance
  | blockhash
  | solanaSubmission
  | nearAccount
  | accessKey
  | block
  | nearSubmission

namespace RemoteCall

def method : RemoteCall → String
  | evmBalance => "eth_getBalance"
  | tokenSymbol => "eth_call"
  | tokenBalance _ => "eth_call"
  | transactionCount => "eth_getTransactionCount"
  | gasPrice => "eth_gasPrice"
  | gasEstimate => "eth_estimateGas"
  | evmSubmission => "eth_sendRawTransaction"
  | solanaBalance => "getBalance"
  | blockhash => "getLatestBlockhash"
  | solanaSubmission => "sendTransaction"
  | nearAccount => "query"
  | accessKey => "query"
  | block => "block"
  | nearSubmission => "broadcast_tx_commit"

/-- The parameters are those of a call of a contract with an input. -/
def Inputs (input : Bytes) (params : Option Json) : Prop :=
  ∃ contract, params = some (.array
    [.object [("input", EvmChain.bytesJson input), ("to", .string contract)], .string "latest"])

/-- The parameters ask for a view. -/
def Views (what : String) (params : Option Json) : Prop :=
  ∃ fields, params = some (.object (("request_type", .string what) :: fields))

/-- The parameters that tell calls of one method apart. -/
def Concerns : RemoteCall → Option Json → Prop
  | tokenSymbol => Inputs [0x95, 0xD8, 0x9B, 0x41]
  | tokenBalance holder => Inputs ([0x70, 0xA0, 0x82, 0x31] ++ (List.replicate 12 0 ++ holder.bytes))
  | nearAccount => Views "view_account"
  | accessKey => Views "view_access_key"
  | _ => fun _ => True

/-- A request makes the call. -/
def MadeBy (call : RemoteCall) (request : Request) : Prop :=
  ∃ params, request.payload = .call call.method params ∧ call.Concerns params

/-- An outcome fails the call. -/
def Fails : RemoteCall → Outcome → Prop
  | evmBalance => Evm.Fails fun node => (Evm.Reply.amount node).toOption
  | tokenSymbol => Evm.Fails (EvmChain.tokenResult? Evm.ReturnData.text?)
  | tokenBalance _ => Evm.Fails (EvmChain.tokenResult? Evm.ReturnData.amount?)
  | transactionCount => Evm.Fails fun node => (Evm.Reply.quantity UInt64.size node).toOption
  | gasPrice =>
    Evm.Fails fun node => (Evm.Reply.quantity (2 ^ EvmChain.gasPriceBits) node).toOption
  | gasEstimate => Evm.Fails fun node => (Evm.Reply.quantity UInt64.size node).toOption
  | evmSubmission => Evm.Fails fun node => (Evm.Reply.hash node).toOption
  | solanaBalance => Network.Fails (SolanaChain.valueReading Json.Reading.uint64)
  | blockhash => Network.FailsHash (SolanaChain.valueReading SolanaChain.blockhashReading)
  | solanaSubmission => Network.Fails Json.Reading.string
  | nearAccount => NearChain.FailsAccount
  | accessKey => NearChain.FailsView NearChain.accessKeyReading
  | block => Network.FailsHash NearChain.blockReading
  | nearSubmission => NearChain.FailsSubmission

end RemoteCall

namespace ChainError

/-- Whether the error lies with the node: with what it answered, or that it did not. -/
def isRemote (e : ChainError) : Bool :=
  match e.category with
  | .rpc => true
  | .timeout => true
  | .contract => true
  | .transaction => true
  | _ => false

theorem isValidation_of_isRemote {e : ChainError} (remote : e.isRemote = true) :
    e.isValidation = false := by
  cases e <;> first | rfl | cases remote

theorem isRemote_ofFailure (limit : Nat) {other : Evm.Failure → ChainError}
    (remote : ∀ why, (other why).isRemote = true) (why : Evm.Failure) :
    (ofFailure limit other why).isRemote = true := by
  cases why <;> first | rfl | exact remote _

theorem isRemote_ofCall (limit : Nat) (method : String) (why : Network.CallError) :
    (ofCall limit method why).isRemote = true := by
  cases why <;> rfl

end ChainError

/-- Whatever an operation makes of an outcome, its errors lie with the node. -/
def RemoteOnly {α : Type} (answer : Outcome → Except ChainError α) : Prop :=
  ∀ outcome e, answer outcome = .error e → e.isRemote = true

/-- An operation reports the outcomes that fail a call, and no others, as errors that are not the
caller's. -/
structure Reports {α : Type} (answer : Outcome → Except ChainError α) (call : RemoteCall) : Prop where
  ok : ∀ {outcome a}, answer outcome = .ok a → ¬ call.Fails outcome
  error : ∀ {outcome e}, answer outcome = .error e → call.Fails outcome ∧ e.isValidation = false

variable {α β : Type} {call : RemoteCall} {answer : Outcome → Except ChainError α}

theorem remoteOnly_mapError {ε : Type} {read : Outcome → Except ε α} {g : ε → ChainError}
    (remote : ∀ why, (g why).isRemote = true) :
    RemoteOnly fun outcome => (read outcome).mapError g := by
  intro outcome e failed
  obtain ⟨why, -, rfl⟩ := mapError_eq_error_iff.1 failed
  exact remote why

theorem RemoteOnly.map (remote : RemoteOnly answer) (f : α → β) :
    RemoteOnly fun outcome => (answer outcome).map f := by
  intro outcome e failed
  exact remote outcome e (map_eq_error_iff.1 failed)

theorem RemoteOnly.bind (remote : RemoteOnly answer) {further : α → Except ChainError β}
    (own : ∀ a e, further a = .error e → e.isRemote = true) :
    RemoteOnly fun outcome => (answer outcome).bind further := by
  intro outcome e failed
  obtain failed | ⟨a, -, failed⟩ := bind_eq_error_iff.1 failed
  · exact remote outcome e failed
  · exact own a e failed

theorem Reports.of_iff {Answers : Outcome → α → Prop}
    (accepts : ∀ outcome a, answer outcome = .ok a ↔ Answers outcome a)
    (fails : ∀ outcome, call.Fails outcome ↔ ∀ a, ¬ Answers outcome a)
    (remote : RemoteOnly answer) : Reports answer call where
  ok read failed := (fails _).1 failed _ ((accepts _ _).1 read)
  error {outcome e} failed := by
    refine ⟨(fails outcome).2 fun a answers => ?_,
      ChainError.isValidation_of_isRemote (remote outcome e failed)⟩
    exact nomatch ((accepts outcome a).2 answers).symm.trans failed

theorem Reports.map (reports : Reports answer call) (f : α → β) :
    Reports (fun outcome => (answer outcome).map f) call where
  ok read := by
    obtain ⟨a, read, -⟩ := map_eq_ok_iff.1 read
    exact reports.ok read
  error failed := reports.error (map_eq_error_iff.1 failed)

theorem Reports.mapError (reports : Reports answer call) {g : ChainError → ChainError}
    (remote : ∀ e, (g e).isValidation = false) :
    Reports (fun outcome => (answer outcome).mapError g) call where
  ok read := reports.ok (mapError_eq_ok_iff.1 read)
  error failed := by
    obtain ⟨why, refused, rfl⟩ := mapError_eq_error_iff.1 failed
    exact ⟨(reports.error refused).1, remote why⟩

namespace EvmChain

theorem remoteOnly_answer {url : Url} {limit : Nat} {read : Json.Node → Except Evm.Failure α}
    {other : Evm.Failure → ChainError} (remote : ∀ why, (other why).isRemote = true) :
    RemoteOnly fun outcome =>
      ((Evm.Reply.ofOutcome url outcome).bind read).mapError (.ofFailure limit other) :=
  remoteOnly_mapError (ChainError.isRemote_ofFailure limit remote)

theorem remoteOnly_rpcAnswer (c : EvmChain) (method : String)
    (read : Json.Node → Except Evm.Failure α) : RemoteOnly (c.rpcAnswer method read) :=
  remoteOnly_answer fun _ => rfl

theorem remoteOnly_submission (c : EvmChain) : RemoteOnly c.submissionAnswer :=
  (remoteOnly_answer fun _ => rfl).map _

theorem remoteOnly_tokenAnswer (c : EvmChain) (method : Evm.TokenMethod)
    (read : Bytes → Option α) : RemoteOnly (c.tokenAnswer method read) := by
  refine (remoteOnly_answer fun _ => rfl).bind fun data e failed => ?_
  unfold tokenData at failed
  split at failed
  · cases failed
    rfl
  · split at failed <;> cases failed
    rfl

theorem reports_answer {url : Url} {limit : Nat} {read : Json.Node → Except Evm.Failure α}
    {other : Evm.Failure → ChainError} (remote : ∀ why, (other why).isRemote = true)
    (fails : call.Fails = Evm.Fails fun node => (read node).toOption) :
    Reports (fun outcome =>
      ((Evm.Reply.ofOutcome url outcome).bind read).mapError (.ofFailure limit other)) call := by
  refine .of_iff (fun _ _ => answer_eq_ok_iff) (fun _ => ?_) (remoteOnly_answer remote)
  rw [fails]
  exact Evm.fails_iff

theorem reports_balance (c : EvmChain) :
    Reports (c.rpcAnswer "eth_getBalance" Evm.Reply.amount) .evmBalance :=
  reports_answer (fun _ => rfl) rfl

theorem reports_count (c : EvmChain) : Reports c.countAnswer .transactionCount :=
  reports_answer (fun _ => rfl) rfl

theorem reports_price (c : EvmChain) : Reports c.priceAnswer .gasPrice :=
  reports_answer (fun _ => rfl) rfl

theorem reports_estimate (c : EvmChain) : Reports c.estimateAnswer .gasEstimate :=
  reports_answer (fun _ => rfl) rfl

theorem reports_submission (c : EvmChain) : Reports c.submissionAnswer .evmSubmission :=
  (reports_answer (fun _ => rfl) rfl).map _

theorem reports_tokenAnswer (c : EvmChain) {method : Evm.TokenMethod} {read : Bytes → Option α}
    (fails : call.Fails = Evm.Fails (tokenResult? read)) :
    Reports (c.tokenAnswer method read) call := by
  refine .of_iff (fun _ _ => tokenAnswer_eq_ok_iff) (fun _ => ?_) (c.remoteOnly_tokenAnswer _ _)
  rw [fails]
  exact Evm.fails_iff

end EvmChain

namespace SolanaChain

variable (c : SolanaChain)

theorem remoteOnly_answer (method : String) (reading : Json.Reading α) :
    RemoteOnly (c.answer method reading) :=
  remoteOnly_mapError (ChainError.isRemote_ofCall _ _)

theorem remoteOnly_balance : RemoteOnly c.balanceAnswer :=
  (c.remoteOnly_answer _ _).map _

theorem remoteOnly_blockhash : RemoteOnly c.blockhashAnswer := by
  refine (c.remoteOnly_answer _ _).bind fun text e failed => ?_
  unfold blockhashOfText at failed
  split at failed <;> cases failed
  rfl

theorem remoteOnly_submission : RemoteOnly c.submissionAnswer :=
  remoteOnly_mapError fun _ => rfl

theorem reports_answer {method : String} {reading : Json.Reading α}
    (fails : call.Fails = Network.Fails reading) : Reports (c.answer method reading) call := by
  refine .of_iff (fun _ _ => answer_eq_ok_iff) (fun _ => ?_) (c.remoteOnly_answer _ _)
  rw [fails]
  exact Network.fails_iff

theorem reports_balance : Reports c.balanceAnswer .solanaBalance :=
  (c.reports_answer rfl).map _

theorem reports_blockhash : Reports c.blockhashAnswer .blockhash :=
  .of_iff (fun _ _ => blockhashAnswer_eq_ok_iff) (fun _ => Network.failsHash_iff)
    c.remoteOnly_blockhash

theorem reports_submission : Reports c.submissionAnswer .solanaSubmission :=
  (c.reports_answer rfl).mapError fun _ => rfl

end SolanaChain

namespace NearChain

variable (c : NearChain)

theorem remoteOnly_answer (method : String) (reading : Json.Reading α) :
    RemoteOnly (c.answer method reading) :=
  remoteOnly_mapError (ChainError.isRemote_ofCall _ _)

theorem remoteOnly_view (reading : Json.Reading α) : RemoteOnly (c.viewAnswer reading) := by
  refine (c.remoteOnly_answer _ _).bind fun result e failed => ?_
  unfold viewOf at failed
  split at failed
  · cases failed
    rfl
  · obtain ⟨why, -, rfl⟩ := mapError_eq_error_iff.1 failed
    rfl

theorem remoteOnly_balance : RemoteOnly c.balanceAnswer := by
  refine (c.remoteOnly_view _).bind fun text e failed => ?_
  obtain ⟨why, -, rfl⟩ := mapError_eq_error_iff.1 failed
  rfl

theorem remoteOnly_block : RemoteOnly c.blockAnswer := by
  refine (c.remoteOnly_answer _ _).bind fun text e failed => ?_
  unfold blockIdOfText at failed
  split at failed <;> cases failed
  rfl

theorem remoteOnly_submission : RemoteOnly c.submissionAnswer := by
  refine (remoteOnly_mapError fun _ => rfl).bind fun outcome e failed => ?_
  obtain ⟨status, hash⟩ := outcome
  change outcomeId status hash = _ at failed
  unfold outcomeId at failed
  split at failed <;> cases failed
  rfl

theorem reports_balance : Reports c.balanceAnswer .nearAccount :=
  .of_iff (fun _ _ => balanceAnswer_eq_ok_iff) (fun _ => failsAccount_iff) c.remoteOnly_balance

theorem reports_nonce : Reports c.nonceAnswer .accessKey :=
  .of_iff (fun _ _ => viewAnswer_eq_ok_iff) (fun _ => failsView_iff) (c.remoteOnly_view _)

theorem reports_block : Reports c.blockAnswer .block :=
  .of_iff (fun _ _ => blockAnswer_eq_ok_iff) (fun _ => Network.failsHash_iff) c.remoteOnly_block

theorem reports_submission : Reports c.submissionAnswer .nearSubmission :=
  .of_iff (fun _ _ => submissionAnswer_eq_ok_iff) (fun _ => failsSubmission_iff)
    c.remoteOnly_submission

end NearChain

end TokenFaucet
