import TokenFaucet.Json.Reading

set_option autoImplicit false

namespace TokenFaucet

structure Layout.ChainEntry where
  chainId : String
  name : String
  rpc : String
  nativeToken : String
  decimals : UInt8
deriving DecidableEq

/-- A token in a layout; its standard is kept as it is written. -/
structure Layout.TokenEntry where
  name : String
  symbol : String
  address : String
  standard : String
  decimals : UInt8
  chains : List String
deriving DecidableEq

structure Layout.Evm where
  chains : List Layout.ChainEntry
  tokens : List Layout.TokenEntry
  /-- Whether transfers on one chain wait for each other. -/
  serializeSubmissions : Bool
deriving DecidableEq

structure Layout.Cluster where
  id : String
  rpc : String
  nativeToken : String
  decimals : UInt8
  name : Option String
deriving DecidableEq

structure Layout where
  evm : Layout.Evm
  solana : Option Layout.Cluster
  near : Option Layout.Cluster
deriving DecidableEq

namespace Layout

open Json.Reading (required defaulted record string uint8 list bool optional)

def ChainEntry.reading : Json.Reading ChainEntry :=
  let chainId := required "chain_id" string
  let name := required "name" string
  let rpc := required "rpc" string
  let nativeToken := required "native_token" string
  let decimals := required "decimals" uint8
  record "EvmChainConfig" [chainId.slot, name.slot, rpc.slot, nativeToken.slot, decimals.slot]
    fun found => do
      let chainId ← found.get chainId
      let name ← found.get name
      let rpc ← found.get rpc
      let nativeToken ← found.get nativeToken
      let decimals ← found.get decimals
      return ⟨chainId, name, rpc, nativeToken, decimals⟩

def TokenEntry.reading : Json.Reading TokenEntry :=
  let name := required "name" string
  let symbol := required "symbol" string
  let address := required "address" string
  let standard := required "type" string
  let decimals := required "decimals" uint8
  let chains := required "chains" (list string)
  record "TokenConfig"
    [name.slot, symbol.slot, address.slot, standard.slot, decimals.slot, chains.slot]
    fun found => do
      let name ← found.get name
      let symbol ← found.get symbol
      let address ← found.get address
      let standard ← found.get standard
      let decimals ← found.get decimals
      let chains ← found.get chains
      return ⟨name, symbol, address, standard, decimals, chains⟩

/-- The EVM part of a layout that leaves it out. -/
def Evm.empty : Evm := ⟨[], [], true⟩

def Evm.reading : Json.Reading Evm :=
  let chains := defaulted "chains" (list ChainEntry.reading) []
  let tokens := defaulted "tokens" (list TokenEntry.reading) []
  let serializeSubmissions := defaulted "serialize_submissions" bool true
  record "EvmSection" [chains.slot, tokens.slot, serializeSubmissions.slot] fun found => do
    let chains ← found.get chains
    let tokens ← found.get tokens
    let serializeSubmissions ← found.get serializeSubmissions
    return ⟨chains, tokens, serializeSubmissions⟩

def Cluster.reading : Json.Reading Cluster :=
  let id := required "id" string
  let rpc := required "rpc" string
  let nativeToken := required "native_token" string
  let decimals := required "decimals" uint8
  let name := defaulted "name" (optional string) none
  record "ClusterConfig" [id.slot, rpc.slot, nativeToken.slot, decimals.slot, name.slot]
    fun found => do
      let id ← found.get id
      let rpc ← found.get rpc
      let nativeToken ← found.get nativeToken
      let decimals ← found.get decimals
      let name ← found.get name
      return ⟨id, rpc, nativeToken, decimals, name⟩

def reading : Json.Reading Layout :=
  let evm := defaulted "evm" Evm.reading Evm.empty
  let solana := defaulted "solana" (optional Cluster.reading) none
  let near := defaulted "near" (optional Cluster.reading) none
  record "NetworkLayout" [evm.slot, solana.slot, near.slot] fun found => do
    let evm ← found.get evm
    let solana ← found.get solana
    let near ← found.get near
    return ⟨evm, solana, near⟩

end Layout

end TokenFaucet
