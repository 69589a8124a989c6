import TokenFaucet.Config.Error
import TokenFaucet.Registry.Chain

set_option autoImplicit false

namespace TokenFaucet

/-- A signer for each family that needs one. -/
structure Signers where
  evm : Option EvmSigner
  solana : Option SolanaSigner
  near : Option NearSigner

namespace Signers

def need (kind : ChainKind) (variableName : String) : Option String → Except ConfigError String
  | some secret => .ok secret
  | none => .error (.missingSecret kind variableName)

def evmOf (l : Layout) (s : Secrets) : Except ConfigError (Option EvmSigner) := do
  if l.evm.chains.isEmpty then return none
  let key ← need .evm "EVM_SIGNER_KEY" s.evmKey
  let signer ← (EvmSigner.parse key).mapError .signer
  return some signer

def solanaOf (l : Layout) (s : Secrets) : Except ConfigError (Option SolanaSigner) := do
  if l.solana.isNone then return none
  let key ← need .solana "SOLANA_SIGNER_KEY" s.solanaKey
  let signer ← (SolanaSigner.parse key).mapError .signer
  return some signer

def nearOf (l : Layout) (s : Secrets) : Except ConfigError (Option NearSigner) := do
  if l.near.isNone then return none
  let account ← need .near "NEAR_SIGNER_ACCOUNT" s.nearAccount
  let key ← need .near "NEAR_SIGNER_KEY" s.nearKey
  let signer ← (NearSigner.parse account key).mapError .signer
  return some signer

def ofSecrets (l : Layout) (s : Secrets) : Except ConfigError Signers := do
  let evm ← evmOf l s
  let solana ← solanaOf l s
  let near ← nearOf l s
  return ⟨evm, solana, near⟩

end Signers

/-- The chains of a layout, in its order. -/
structure Networks.Built where
  evm : List EvmChain
  solana : Option SolanaChain
  near : Option NearChain

namespace Networks

def entryProfile (e : Layout.ChainEntry) : ChainProfile :=
  ⟨e.chainId, e.name, e.rpc, e.nativeToken, e.decimals⟩

/-- The profile of a cluster; without a name it is named after its family and id. -/
def clusterProfile (kind : ChainKind) (c : Layout.Cluster) : ChainProfile :=
  ⟨c.id, c.name.getD s!"{kind.debug} {c.id}", c.rpc, c.nativeToken, c.decimals⟩

def buildEvm (signer : EvmSigner) (limit : Nat) (serializes : Bool) :
    List Layout.ChainEntry → Except ConfigError (List EvmChain)
  | [] => .ok []
  | e :: rest => do
    let c ← (EvmChain.ofProfile (entryProfile e) signer limit serializes).mapError .chain
    let others ← buildEvm signer limit serializes rest
    return c :: others

/-- Sets up the chains of a layout that have a signer. -/
def build (l : Layout) (s : Signers) (limit : Nat) : Except ConfigError Built := do
  let evm ← match s.evm with
    | some signer => buildEvm signer limit l.evm.serializeSubmissions l.evm.chains
    | none => .ok []
  let solana ← match l.solana, s.solana with
    | some c, some signer =>
      ((SolanaChain.ofProfile (clusterProfile .solana c) signer limit).mapError .chain).map some
    | _, _ => .ok none
  let near ← match l.near, s.near with
    | some c, some signer =>
      ((NearChain.ofProfile (clusterProfile .near c) signer limit).mapError .chain).map some
    | _, _ => .ok none
  return ⟨evm, solana, near⟩

def Built.toList (b : Built) : List Chain :=
  b.evm.map .evm ++ b.solana.toList.map .solana ++ b.near.toList.map .near

def registerTokens (r : TokenRegistry) : List Layout.TokenEntry → Except ConfigError TokenRegistry
  | [] => .ok r
  | e :: rest => do
    let standard ← (TokenStandard.parse e.standard).mapError fun why =>
      .layout (.invalidToken e.address (.unknownStandard why))
    let r ← (r.insert
      { address := e.address
        symbol := e.symbol
        name := e.name
        standard := standard
        decimals := e.decimals
        chains := Table.sortedWords e.chains }).mapError .registry
    registerTokens r rest

def buildTokens (l : Layout) : Except ConfigError TokenRegistry :=
  registerTokens .empty l.evm.tokens

end Networks

end TokenFaucet
