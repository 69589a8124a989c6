import TokenFaucet.Api.Message
import TokenFaucet.Faucet.Basic

set_option autoImplicit false

namespace TokenFaucet.Faucet

open Api (ChainInfo TokenInfo)

/-- The order of a user's rows: by family, then by chain, then by token. -/
def rowLe (a b : Ledger.Record) : Bool :=
  a.kind.rank < b.kind.rank ||
    (a.kind == b.kind &&
      (decide (a.chainId < b.chainId) || (a.chainId == b.chainId && decide (a.token ≤ b.token))))

/-- What a user has received of each asset. -/
def balances (userId : String) : Attempt (List Ledger.Record) := do
  let rows ← onLedger (.query (Ledger.Query.list (Ledger.Filter.any.byUser userId)))
  return rows.mergeSort rowLe

/-- A chain with what the faucet holds of its native currency. -/
def chainInfo (c : Chain) : Attempt ChainInfo := do
  let balance ← onChain (c.balance c.signerAddress none)
  return ⟨c.id, c.kind, c.profile.name, c.profile.nativeToken, c.profile.decimals,
    balance.toHuman c.profile.decimals⟩

def chainInfos : List Chain → Attempt (List ChainInfo)
  | [] => return []
  | c :: rest => do
    let info ← chainInfo c
    let others ← chainInfos rest
    return info :: others

def chainList (f : Faucet) : Attempt (List ChainInfo) :=
  chainInfos f.chains.toList

/-- The places where a token can be had: its chains that the faucet pays from. -/
def tokenPlaces (f : Faucet) (t : Token) : List (Token × Chain) :=
  (t.chains.filterMap (f.chains.get? .evm)).map ((t, ·))

/-- A token on a chain, with what the faucet holds of it there. The decimal places are those that
the contract gives. -/
def tokenInfo (t : Token) (c : Chain) : Attempt TokenInfo := do
  let balance ← onChain (c.balance c.signerAddress (some t.address))
  let decimals ← onChain (c.tokenDecimals t.address)
  return ⟨t.address, t.standard, t.name, t.symbol, c.id, .evm, decimals, balance.toHuman decimals⟩

def tokenInfos : List (Token × Chain) → Attempt (List TokenInfo)
  | [] => return []
  | (t, c) :: rest => do
    let info ← tokenInfo t c
    let others ← tokenInfos rest
    return info :: others

def tokenList (f : Faucet) : Attempt (List TokenInfo) :=
  tokenInfos (f.tokens.toList.flatMap f.tokenPlaces)

end TokenFaucet.Faucet
