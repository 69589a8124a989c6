import TokenFaucet.Ledger.Record

set_option autoImplicit false

namespace TokenFaucet.Api

open TokenFaucet.Number (Binary64)
open TokenFaucet.Json.Reading (required defaulted record string)

structure SendRequest where
  chainId : String
  receiver : String
  amount : String
  symbol : String
  token : Option String
deriving DecidableEq

namespace SendRequest

def reading : Json.Reading SendRequest :=
  let chainId := required "chain_id" string
  let receiver := required "to" string
  let amount := required "amount" string
  let symbol := required "symbol" string
  let token := defaulted "token_address" (Json.Reading.optional string) none
  record "SendRequest" [chainId.slot, receiver.slot, amount.slot, symbol.slot, token.slot]
    fun found => do
      let chainId ← found.get chainId
      let receiver ← found.get receiver
      let amount ← found.get amount
      let symbol ← found.get symbol
      let token ← found.get token
      return ⟨chainId, receiver, amount, symbol, token⟩

def toJson (r : SendRequest) : Json :=
  .object
    ([("chain_id", .string r.chainId), ("to", .string r.receiver), ("amount", .string r.amount),
      ("symbol", .string r.symbol)] ++
      match r.token with
      | some token => [("token_address", .string token)]
      | none => [])

def debug (r : SendRequest) : String :=
  Text.debugRecord "SendRequest"
    [("chain_id", Text.debugQuoted r.chainId), ("to", Text.debugQuoted r.receiver),
      ("amount", Text.debugQuoted r.amount), ("symbol", Text.debugQuoted r.symbol),
      ("token_address", Text.debugOption (r.token.map Text.debugQuoted))]

end SendRequest

/-- The answer to a request for a transfer: the transaction's id on its chain. -/
structure SendResponse where
  txHash : String
deriving DecidableEq

namespace SendResponse

def reading : Json.Reading SendResponse :=
  let txHash := required "tx_hash" string
  record "SendResponse" [txHash.slot] fun found => do
    let txHash ← found.get txHash
    return ⟨txHash⟩

def toJson (r : SendResponse) : Json :=
  .object [("tx_hash", .string r.txHash)]

def debug (r : SendResponse) : String :=
  Text.debugRecord "SendResponse" [("tx_hash", Text.debugQuoted r.txHash)]

end SendResponse

/-- A chain, and what the faucet holds of its native currency. -/
structure ChainInfo where
  id : String
  kind : ChainKind
  name : String
  nativeToken : String
  decimals : UInt8
  balance : Binary64
deriving DecidableEq

namespace ChainInfo

def reading : Json.Reading ChainInfo :=
  let id := required "id" string
  let kind := required "kind" ChainKind.reading
  let name := required "name" string
  let nativeToken := required "native_token" string
  let decimals := required "decimals" Json.Reading.uint8
  let balance := required "balance" Json.Reading.binary64
  record "ChainInfo"
    [id.slot, kind.slot, name.slot, nativeToken.slot, decimals.slot, balance.slot] fun found => do
      let id ← found.get id
      let kind ← found.get kind
      let name ← found.get name
      let nativeToken ← found.get nativeToken
      let decimals ← found.get decimals
      let balance ← found.get balance
      return ⟨id, kind, name, nativeToken, decimals, balance⟩

def toJson (c : ChainInfo) : Json :=
  .object
    [("id", .string c.id), ("kind", .string c.kind.name), ("name", .string c.name),
      ("native_token", .string c.nativeToken), ("decimals", .ofNat c.decimals.toNat),
      ("balance", .number (.float c.balance))]

def debug (c : ChainInfo) : String :=
  Text.debugRecord "ChainInfo"
    [("id", Text.debugQuoted c.id), ("kind", c.kind.debug), ("name", Text.debugQuoted c.name),
      ("native_token", Text.debugQuoted c.nativeToken), ("decimals", toString c.decimals.toNat),
      ("balance", c.balance.debug)]

/-- Equality as values: balances are compared as numbers. -/
def same (a b : ChainInfo) : Bool :=
  { a with balance := .zero } == { b with balance := .zero } && a.balance.numEq b.balance

end ChainInfo

/-- A token on one chain, and what the faucet holds of it there. -/
structure TokenInfo where
  address : String
  standard : TokenStandard
  name : String
  symbol : String
  chainId : String
  chainKind : ChainKind
  decimals : UInt8
  balance : Binary64
deriving DecidableEq

namespace TokenInfo

def reading : Json.Reading TokenInfo :=
  let address := required "address" string
  let standard := required "standard" TokenStandard.reading
  let name := required "name" string
  let symbol := required "symbol" string
  let chainId := required "chain_id" string
  let chainKind := required "chain_kind" ChainKind.reading
  let decimals := required "decimals" Json.Reading.uint8
  let balance := required "balance" Json.Reading.binary64
  record "TokenInfo"
    [address.slot, standard.slot, name.slot, symbol.slot, chainId.slot, chainKind.slot,
      decimals.slot, balance.slot] fun found => do
      let address ← found.get address
      let standard ← found.get standard
      let name ← found.get name
      let symbol ← found.get symbol
      let chainId ← found.get chainId
      let chainKind ← found.get chainKind
      let decimals ← found.get decimals
      let balance ← found.get balance
      return ⟨address, standard, name, symbol, chainId, chainKind, decimals, balance⟩

def toJson (t : TokenInfo) : Json :=
  .object
    [("address", .string t.address), ("standard", .string t.standard.name),
      ("name", .string t.name), ("symbol", .string t.symbol), ("chain_id", .string t.chainId),
      ("chain_kind", .string t.chainKind.name), ("decimals", .ofNat t.decimals.toNat),
      ("balance", .number (.float t.balance))]

def debug (t : TokenInfo) : String :=
  Text.debugRecord "TokenInfo"
    [("address", Text.debugQuoted t.address), ("standard", t.standard.debug),
      ("name", Text.debugQuoted t.name), ("symbol", Text.debugQuoted t.symbol),
      ("chain_id", Text.debugQuoted t.chainId), ("chain_kind", t.chainKind.debug),
      ("decimals", toString t.decimals.toNat), ("balance", t.balance.debug)]

/-- Equality as values: balances are compared as numbers. -/
def same (a b : TokenInfo) : Bool :=
  { a with balance := .zero } == { b with balance := .zero } && a.balance.numEq b.balance

end TokenInfo

/-- A list under one name, the form of the answers that list things. -/
structure Listing (α : Type) where
  items : List α

namespace Listing

variable {α : Type}

def reading (typeName field : String) (item : Json.Reading α) : Json.Reading (Listing α) :=
  let items := required field (Json.Reading.list item)
  record typeName [items.slot] fun found => do
    let items ← found.get items
    return ⟨items⟩

def toJson (field : String) (item : α → Json) (l : Listing α) : Json :=
  .object [(field, .array (l.items.map item))]

def debug (typeName field : String) (item : α → String) (l : Listing α) : String :=
  Text.debugRecord typeName [(field, Text.debugList (l.items.map item))]

/-- Equality item by item. -/
def same (item : α → α → Bool) (a b : Listing α) : Bool :=
  a.items.length == b.items.length && (a.items.zip b.items).all fun p => item p.1 p.2

end Listing

def chainList : Json.Reading (Listing ChainInfo) :=
  Listing.reading "ChainListResponse" "chains" ChainInfo.reading

def tokenList : Json.Reading (Listing TokenInfo) :=
  Listing.reading "TokenListResponse" "tokens" TokenInfo.reading

def balanceList : Json.Reading (Listing Ledger.Record) :=
  Listing.reading "BalanceListResponse" "balances" Ledger.Record.reading

end TokenFaucet.Api
