import TokenFaucet.Chain.Error
import TokenFaucet.Ledger.Store

set_option autoImplicit false

namespace TokenFaucet

/-- Why the faucet did not do what it was asked to. -/
inductive FaucetError where
  | badAmount (why : AmountError)
  | unknownChain (kind : ChainKind) (id : String)
  | badReceiver (address : String)
  /-- The receiver is the account that the faucet pays from. -/
  | paysItself
  | symbolNotOffered (symbol chainId : String)
  | tokenNotOffered (token chainId : String)
  /-- The token's contract gives another symbol. -/
  | otherSymbol (symbol token : String)
  | chain (why : ChainError)
  | insufficientBalance (kind : ChainKind) (id : String)
  | ledger (why : Ledger.Error)

namespace FaucetError

/-- The classes of errors that callers tell apart. -/
inductive Category where
  /-- The request is malformed or asks for what is not allowed. -/
  | validation
  /-- The request names a chain or an asset that is not offered. -/
  | notFound
  | remote
  | balance
  | storage
deriving DecidableEq, Repr

def category : FaucetError → Category
  | badAmount _ => .validation
  | unknownChain .. => .notFound
  | badReceiver _ => .validation
  | paysItself => .validation
  | symbolNotOffered .. => .notFound
  | tokenNotOffered .. => .notFound
  | otherSymbol .. => .validation
  | chain why => if why.isValidation then .validation else .remote
  | insufficientBalance .. => .balance
  | ledger _ => .storage

def message : FaucetError → String
  | badAmount why => why.message
  | unknownChain kind id => s!"unsupported {kind.name} chain `{id}`"
  | badReceiver address => s!"invalid receiver address `{address}`"
  | paysItself => "receiver can't be equal to the faucet address"
  | symbolNotOffered symbol chainId => s!"symbol `{symbol}` is not offered on chain `{chainId}`"
  | tokenNotOffered token chainId => s!"token `{token}` is not offered on chain `{chainId}`"
  | otherSymbol symbol token => s!"invalid symbol `{symbol}` for token `{token}`"
  | chain why =>
    if why.isValidation then why.message else s!"remote chain unavailable: {why.message}"
  | insufficientBalance kind id => s!"insufficient faucet balance on {kind.name} chain {id}"
  | ledger why => s!"ledger error: {why.message}"

end FaucetError

end TokenFaucet
