import TokenFaucet.Evm.Chain
import TokenFaucet.Near.AccountId
import TokenFaucet.Near.Chain
import TokenFaucet.Solana.Chain

set_option autoImplicit false

namespace TokenFaucet

open Network (Attempt)

inductive Chain where
  | evm (c : EvmChain)
  | solana (c : SolanaChain)
  | near (c : NearChain)

namespace Chain

def kind : Chain → ChainKind
  | evm _ => .evm
  | solana _ => .solana
  | near _ => .near

def profile : Chain → ChainProfile
  | evm c => c.profile
  | solana c => c.profile
  | near c => c.profile

def id (c : Chain) : String := c.profile.id

/-- The account that the chain pays from. -/
def signerAddress : Chain → String
  | evm c => c.signer.address.checksumText
  | solana c => c.signer.address
  | near c => c.signer.accountId

/-- Whether a text may name a receiver on this chain. -/
def isReceiver : Chain → String → Bool
  | evm _ => Evm.Address.isValid
  | solana _ => Solana.Address.isValid
  | near _ => Near.AccountId.isValid

/-- What an account holds, of the native currency or, on EVM chains, of a token. -/
def balance (c : Chain) (address : String) (token : Option String) :
    Attempt ChainError MinorUnits :=
  match c with
  | evm c => c.balance address token
  | solana c => c.balance address
  | near c => c.balance address

/-- The symbol that a token's contract gives. -/
def tokenSymbol (c : Chain) (token : String) : Attempt ChainError String :=
  match c with
  | evm c => c.tokenSymbol token
  | c => throw (.unsupported c.kind)

/-- The decimal places that a token's contract gives. -/
def tokenDecimals (c : Chain) (token : String) : Attempt ChainError UInt8 :=
  match c with
  | evm c => c.tokenDecimals token
  | c => throw (.unsupported c.kind)

/-- Signs and submits a transfer; the result is the transaction's id. -/
def send (c : Chain) (receiver : String) (amount : MinorUnits) (token : Option String) :
    Attempt ChainError String :=
  match c with
  | evm c => c.send receiver amount token
  | solana c => c.send receiver amount
  | near c => c.send receiver amount

end Chain

end TokenFaucet
