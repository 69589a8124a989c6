import TokenFaucet.Chain.Error
import TokenFaucet.ChainKind
import TokenFaucet.Evm.Contract
import TokenFaucet.Evm.Transaction

set_option autoImplicit false

attribute [local instance (2000)] instPowNat

/-!
EVM chains: balances, what token contracts say of themselves, and transfers. The nonce, the price of
gas and the limit of gas are asked for with every transfer. Of two transfers in turns both may get
the same nonce, and one is then refused; on a chain that serializes its submissions a transfer holds
the chain's lane from the first question to the submission.
-/

namespace TokenFaucet

open Network (Attempt Session exchange)

structure EvmChain where
  profile : ChainProfile
  chainId : UInt64
  client : Network.Client
  signer : EvmSigner
  serializes : Bool

namespace EvmChain

/-- Sets a chain up, whose id is a number and whose node has an address. -/
def ofProfile (profile : ChainProfile) (signer : EvmSigner) (limit : Nat) (serializes : Bool) :
    Except ChainError EvmChain := do
  let chainId ← (Number.Numeral.parse UInt64.size profile.id).mapError (.badChainId profile.id)
  let url ← (Url.parse profile.rpc).mapError (.badEndpoint profile.rpc)
  return ⟨profile, .ofNat chainId, ⟨profile.clientName .evm, url, limit, 0⟩, signer, serializes⟩

def address (text : String) : Except ChainError Evm.Address :=
  (Evm.Address.parse text).mapError fun why => .badAddress text (some why)

/-- Reads the account of a token, if one is given. -/
def tokenAddress : Option String → Except ChainError (Option Evm.Address)
  | some text => (address text).map some
  | none => .ok none

def ask {α : Type} (c : EvmChain) (method : String) (params : Option Json)
    (read : Json.Node → Except Evm.Failure α) : Attempt Evm.Failure α := do
  let outcome ← exchange ⟨c.client, .call method params⟩
  let result ← Evm.Reply.ofOutcome c.client.url outcome
  read result

/-- Asks the node for something that is not a contract's. -/
def rpc {α : Type} (c : EvmChain) (method : String) (params : Option Json)
    (read : Json.Node → Except Evm.Failure α) : Attempt ChainError α :=
  (c.ask method params read).adapt (.ofFailure c.client.limit (.evmCall method))

def bytesJson (bs : Bytes) : Json :=
  .string ("0x" ++ Bytes.Hex.encode bs)

def quantityJson (n : Nat) : Json :=
  .string ("0x" ++ String.ofList (Nat.toDigits 16 n))

def callToken {α : Type} (c : EvmChain) (token : Evm.Address) (method : Evm.TokenMethod)
    (read : Bytes → Option α) : Attempt ChainError α := do
  let params : Json := .array
    [.object [("input", bytesJson method.callData), ("to", .string token.text)],
      .string "latest"]
  let data ← (c.ask "eth_call" (some params) Evm.Reply.bytes).adapt
    (.ofFailure c.client.limit fun why => .contract (.call why))
  if data.isEmpty then throw (.contract (.noData method.name))
  match read data with
  | some a => return a
  | none => throw (.contract .badData)

/-- Checks that the node is one of the configured chain. -/
def verifyChainId (c : EvmChain) : Attempt ChainError Unit := do
  let reported ← c.rpc "eth_chainId" none (Evm.Reply.quantity UInt64.size)
  if reported ≠ c.chainId.toNat then
    throw (.otherChainId c.profile.rpc reported c.chainId.toNat)

/-- What an account holds of the native currency or of a token. -/
def balance (c : EvmChain) (holder : String) (token : Option String) :
    Attempt ChainError MinorUnits := do
  let holder ← address holder
  match token with
  | some token =>
    let token ← address token
    c.callToken token (.balanceOf holder) Evm.ReturnData.amount?
  | none =>
    let params : Json := .array [.string holder.text, .string "latest"]
    c.rpc "eth_getBalance" (some params) Evm.Reply.amount

def tokenSymbol (c : EvmChain) (token : String) : Attempt ChainError String := do
  let token ← address token
  c.callToken token .symbol Evm.ReturnData.text?

def tokenDecimals (c : EvmChain) (token : String) : Attempt ChainError UInt8 := do
  let token ← address token
  c.callToken token .decimals Evm.ReturnData.uint8?

/-- How much more gas than estimated a token's transfer may use. -/
def tokenGasFactor : Nat := 4

/-- The limit of gas for an estimate; what does not fit a word is the largest word. -/
def gasLimit (estimate : Nat) (token : Option Evm.Address) : Nat :=
  if token.isSome then min (tokenGasFactor * estimate) (UInt64.size - 1) else estimate

/-- The account that a transfer's transaction goes to, its value and its input. -/
def transferCall (receiver : Evm.Address) (amount : MinorUnits) :
    Option Evm.Address → Evm.Address × MinorUnits × Bytes
  | some contract => (contract, .zero, Evm.transferData receiver amount)
  | none => (receiver, amount, [])

def gasPriceBits : Nat := 128

/-- Asks for what a transfer needs, signs it and submits it; the result is the transaction's id. -/
def submit (c : EvmChain) (receiver : Evm.Address) (amount : MinorUnits)
    (token : Option Evm.Address) : Attempt ChainError String := do
  let (target, value, input) := transferCall receiver amount token
  let nonce ← c.rpc "eth_getTransactionCount"
    (some (.array [.string c.signer.address.text, .string "pending"]))
    (Evm.Reply.quantity UInt64.size)
  let gasPrice ← c.rpc "eth_gasPrice" none (Evm.Reply.quantity (2 ^ gasPriceBits))
  let request : Json := .object
    [("from", .string c.signer.address.text), ("input", bytesJson input),
      ("to", .string target.text), ("value", quantityJson value.toNat)]
  let estimate ← c.rpc "eth_estimateGas" (some (.array [request, .string "pending"]))
    (Evm.Reply.quantity UInt64.size)
  let transaction : Evm.Transaction :=
    { chainId := c.chainId
      nonce := nonce
      gasPrice := gasPrice
      gasLimit := gasLimit estimate token
      target := target
      value := value
      input := input }
  let raw := transaction.signed c.signer.key
  let hash ← (c.ask "eth_sendRawTransaction" (some (.array [bytesJson raw])) Evm.Reply.hash).adapt
    (.ofFailure c.client.limit .notSent)
  return "0x" ++ Bytes.Hex.encode hash

/-- Transfers an amount of the native currency or of a token. -/
def send (c : EvmChain) (receiver : String) (amount : MinorUnits) (token : Option String) :
    Attempt ChainError String := do
  let receiver ← address receiver
  let token ← tokenAddress token
  if c.serializes then ExceptT.mk (Network.holding c.client.name (c.submit receiver amount token).run)
  else c.submit receiver amount token

end EvmChain

end TokenFaucet
