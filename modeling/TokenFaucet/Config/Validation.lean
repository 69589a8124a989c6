import TokenFaucet.ChainKind
import TokenFaucet.Config.Layout
import TokenFaucet.Evm.Address
import TokenFaucet.Json.Reading

set_option autoImplicit false

namespace TokenFaucet.Layout

/-- What may occur once only. -/
inductive Unique where
  | evmChainId
  | evmEndpoint
  | evmChainName
  | clusterEndpoint
  | tokenAddress
deriving DecidableEq, Repr

def Unique.words : Unique → String
  | .evmChainId => "evm chain id"
  | .evmEndpoint => "evm rpc"
  | .evmChainName => "evm chain name"
  | .clusterEndpoint => "cluster rpc"
  | .tokenAddress => "token address"

inductive TokenFault where
  | badAddress
  | unknownStandard (why : String)
  | noChains
deriving DecidableEq, Repr

def TokenFault.message : TokenFault → String
  | .badAddress => "not a valid EVM address"
  | .unknownStandard why => why
  | .noChains => "no chains listed"

inductive Error where
  | unreadable (why : Json.Fault)
  | duplicate (what : Unique) (value : String)
  | invalidToken (address : String) (why : TokenFault)
deriving DecidableEq

def Error.message : Error → String
  | .unreadable why => s!"invalid network layout: {why.message}"
  | .duplicate what value => s!"duplicate {what.words} `{value}`"
  | .invalidToken address why => s!"invalid token `{address}`: {why.message}"

/-- The check that a value is not among earlier ones. -/
def checkNew (what : Unique) (earlier : List String) (value : String) : Except Error Unit :=
  if earlier.contains value then .error (.duplicate what value) else .ok ()

/-- Checks chains in order; `earlier` holds those already passed. -/
def checkChains (earlier : List ChainEntry) : List ChainEntry → Except Error Unit
  | [] => .ok ()
  | c :: rest => do
    checkNew .evmChainId (earlier.map (·.chainId)) c.chainId
    checkNew .evmEndpoint (earlier.map (·.rpc)) c.rpc
    checkNew .evmChainName (earlier.map (·.name)) c.name
    checkChains (c :: earlier) rest

/-- Checks that two clusters do not share an endpoint. -/
def checkClusters : Option Cluster → Option Cluster → Except Error Unit
  | some a, some b =>
    if a.rpc = b.rpc then .error (.duplicate .clusterEndpoint a.rpc) else .ok ()
  | _, _ => .ok ()

def TokenEntry.check (t : TokenEntry) : Except Error Unit := do
  if !Evm.Address.isValid (Text.lowerCase t.address) then
    throw (.invalidToken t.address .badAddress)
  match TokenStandard.parse t.standard with
  | .error why => throw (.invalidToken t.address (.unknownStandard why))
  | .ok _ => pure ()
  if t.chains.isEmpty then throw (.invalidToken t.address .noChains)

/-- Checks tokens in order; `earlier` holds the addresses already passed, in lower case. -/
def checkTokens (earlier : List String) : List TokenEntry → Except Error Unit
  | [] => .ok ()
  | t :: rest => do
    t.check
    let address := Text.lowerCase t.address
    checkNew .tokenAddress earlier address
    checkTokens (address :: earlier) rest

/-- Checks a layout: the chains, the clusters, the tokens. -/
def validate (l : Layout) : Except Error Unit := do
  checkChains [] l.evm.chains
  checkClusters l.solana l.near
  checkTokens [] l.evm.tokens

/-- Reads a document without checking the layout. -/
def read (text : String) : Except Error Layout :=
  (Json.readText reading text).mapError .unreadable

/-- Reads a document that holds a valid layout. -/
def parse (text : String) : Except Error Layout := do
  let l ← read text
  l.validate
  return l

end TokenFaucet.Layout
