import TokenFaucet.Faucet.Basic

set_option autoImplicit false

/-!
Transfers. A transfer is checked before anything is asked, then the asset's symbol and the faucet's
funds are asked for, then it is sent, and last it is credited to the user in the ledger. Any of these
may end it, and nothing is tried again; a transfer that was sent and could not be credited is
reported as an error of the ledger.
-/

namespace TokenFaucet

/-- What a user asks the faucet to send, as it was received. -/
structure Transfer where
  kind : ChainKind
  chainId : String
  receiver : String
  /-- The amount in minor units. -/
  amount : String
  symbol : String
  token : Option String
deriving DecidableEq

namespace Faucet

/-- What is sent: the native currency or a token, and its decimal places. -/
structure Asset where
  token : Option String
  decimals : UInt8
deriving DecidableEq

def chainOf (f : Faucet) (t : Transfer) : Except FaucetError Chain :=
  match f.chains.get? t.kind t.chainId with
  | some c => .ok c
  | none => .error (.unknownChain t.kind t.chainId)

/-- Whether a text names the account that a chain pays from. -/
def isSigner (c : Chain) (address : String) : Bool :=
  match c.kind with
  | .evm => Text.sameIgnoringAsciiCase address c.signerAddress
  | .solana => address == c.signerAddress
  | .near => address == c.signerAddress

/-- A receiver has an address of the chain, and is not the one who pays. -/
def checkReceiver (c : Chain) (address : String) : Except FaucetError Unit :=
  if !c.isReceiver address then .error (.badReceiver address)
  else if isSigner c address then .error .paysItself
  else .ok ()

/-- The token that a transfer names, if it is offered on the chain. -/
def tokenOn (f : Faucet) (c : Chain) (address : String) : Except FaucetError Token :=
  match f.tokens.get? address with
  | some token =>
    if c.kind == .evm && token.isOn c.id then .ok token
    else .error (.tokenNotOffered address c.id)
  | none => .error (.tokenNotOffered address c.id)

/-- The asset of a transfer; a token's contract has to agree with the symbol. -/
def resolveAsset (f : Faucet) (c : Chain) (t : Transfer) : Attempt Asset := do
  match t.token with
  | none =>
    if c.profile.nativeToken ≠ t.symbol then throw (.symbolNotOffered t.symbol c.id)
    return ⟨none, c.profile.decimals⟩
  | some address =>
    let token ← f.tokenOn c address
    let symbol ← onChain (c.tokenSymbol token.address)
    if symbol ≠ t.symbol then throw (.otherSymbol t.symbol token.address)
    return ⟨some token.address, token.decimals⟩

/-- What the faucet holds of an asset must exceed the amount. -/
def checkFunds (c : Chain) (asset : Asset) (amount : MinorUnits) : Attempt Unit := do
  let balance ← onChain (c.balance c.signerAddress asset.token)
  if balance.le amount then throw (.insufficientBalance c.kind c.id)

/-- Adds what was sent to what the user received before. -/
def recordPayment (userId : String) (c : Chain) (asset : Asset) (amount : MinorUnits) :
    Attempt Unit := do
  let _ ← onLedger
    (Ledger.credit (.ofPayment userId c.id c.kind asset.token) (amount.toHuman asset.decimals))

/-- Sends a transfer for a user; the result is the transaction's id. -/
def dispatch (f : Faucet) (userId : String) (t : Transfer) : Attempt String := do
  let amount ← (MinorUnits.parseTransfer t.amount).mapError FaucetError.badAmount
  let c ← f.chainOf t
  checkReceiver c t.receiver
  let asset ← f.resolveAsset c t
  checkFunds c asset amount
  let id ← onChain (c.send t.receiver amount asset.token)
  recordPayment userId c asset amount
  return id

end Faucet

end TokenFaucet
