import TokenFaucet.Amount
import TokenFaucet.ChainKind
import TokenFaucet.Evm.Reply
import TokenFaucet.Network.Call

set_option autoImplicit false

namespace TokenFaucet

/-- Why a token contract gave no usable result. -/
inductive ContractFault where
  | call (why : Evm.Failure)
  | noData (method : String)
  | badData
deriving DecidableEq

def ContractFault.message : ContractFault → String
  | .call why => why.message
  | .noData method =>
    s!"contract call to `{method}` returned no data (\"0x\"); " ++
      "the called address might not be a contract"
  | .badData => "ABI decoding failed"

inductive ChainError where
  | badEndpoint (text : String) (why : Url.Error)
  | badChainId (text : String) (why : Number.NumeralError)
  | otherChainId (endpoint : String) (reported configured : Nat)
  | badAddress (text : String) (why : Option Bytes.Hex.Error)
  | tooManyLamports (amount : MinorUnits)
  | tooManyYocto (amount : MinorUnits)
  | evmCall (method : String) (why : Evm.Failure)
  | clusterCall (method : String) (why : Network.CallError)
  /-- An error in place of what was to be viewed. -/
  | refusedView (error : Json)
  | badView (why : Json.Fault)
  | badBlockhash (text : String)
  | badBlockId (text : String)
  | badAccountAmount (text : String) (why : Number.RadixError)
  | timeout (seconds : Nat)
  | contract (why : ContractFault)
  | notSent (why : Evm.Failure)
  | notSubmitted (why : ChainError)
  | executionFailed (failure : Json)
  | unsupported (kind : ChainKind)

namespace ChainError

/-- The classes of errors that callers tell apart. -/
inductive Category where
  | endpoint
  | chainId
  | address
  | amount
  | rpc
  | timeout
  | contract
  | transaction
  | unsupported
deriving DecidableEq, Repr

def category : ChainError → Category
  | badEndpoint .. => .endpoint
  | badChainId .. => .chainId
  | otherChainId .. => .chainId
  | badAddress .. => .address
  | tooManyLamports _ => .amount
  | tooManyYocto _ => .amount
  | evmCall .. => .rpc
  | clusterCall .. => .rpc
  | refusedView _ => .rpc
  | badView _ => .rpc
  | badBlockhash _ => .rpc
  | badBlockId _ => .rpc
  | badAccountAmount .. => .rpc
  | timeout _ => .timeout
  | contract _ => .contract
  | notSent _ => .transaction
  | notSubmitted _ => .transaction
  | executionFailed _ => .transaction
  | unsupported _ => .unsupported

/-- Whether the caller's input is at fault and not the node. -/
def isValidation (e : ChainError) : Bool :=
  e.category == .address || e.category == .amount

def message : ChainError → String
  | badEndpoint text why => s!"Invalid RPC URL: {text}: {why.message}"
  | badChainId text why => s!"Invalid chain id: {text}: {why.message}"
  | otherChainId endpoint reported configured =>
    s!"Invalid chain id: {endpoint} reports chain id {reported}, configured {configured}"
  | badAddress text (some why) => s!"Invalid address: {text}: {why.message}"
  | badAddress text none => s!"Invalid address: {text}"
  | tooManyLamports amount => s!"Amount out of range: {amount} lamports exceeds u64"
  | tooManyYocto amount => s!"Amount out of range: {amount} yoctoNEAR exceeds u128"
  | evmCall method why => s!"RPC error: {method}: {why.message}"
  | clusterCall method why => s!"RPC error: {why.message method}"
  | refusedView error => s!"RPC error: query: {error.render}"
  | badView why => s!"RPC error: query: unexpected result shape: {why.message}"
  | badBlockhash text => s!"RPC error: invalid blockhash `{text}`"
  | badBlockId text => s!"RPC error: invalid block hash `{text}`"
  | badAccountAmount text why => s!"RPC error: invalid account amount `{text}`: {why.message}"
  | timeout seconds => s!"RPC call timed out after {seconds}s"
  | contract why => s!"Contract error: {why.message}"
  | notSent why => s!"Transaction failed: Failed to send: {why.message}"
  | notSubmitted why => s!"Transaction failed: {why.message}"
  | executionFailed failure => s!"Transaction failed: {failure.render}"
  | unsupported kind => s!"Operation not supported on {kind.name} chains"

/-- The error of a call of a node, where waiting too long is an error of its own. -/
def ofFailure (limit : Nat) (other : Evm.Failure → ChainError) : Evm.Failure → ChainError
  | .timedOut => .timeout (limit / 1000)
  | why => other why

/-- The error of a call of a cluster, where waiting too long is an error of its own. -/
def ofCall (limit : Nat) (method : String) : Network.CallError → ChainError
  | .timedOut => .timeout (limit / 1000)
  | why => .clusterCall method why

end ChainError

end TokenFaucet
