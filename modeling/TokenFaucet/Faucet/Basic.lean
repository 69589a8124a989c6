import TokenFaucet.Faucet.Error
import TokenFaucet.Ledger.Credit
import TokenFaucet.Registry.Chain

set_option autoImplicit false

namespace TokenFaucet

/-- The chains and tokens that the faucet pays from. -/
structure Faucet where
  chains : ChainRegistry
  tokens : TokenRegistry

namespace Faucet

/-- A question to a network or to the ledger. -/
inductive Query where
  | network (q : Network.Query)
  | ledger (q : Ledger.Query)

def Query.Answer : Query → Type
  | network q => q.Answer
  | ledger q => q.Answer

/-- A program that uses networks and the ledger. -/
abbrev Session (α : Type) := Dialogue Query Query.Answer α

/-- A program that uses networks and the ledger and may fail. -/
abbrev Attempt (α : Type) := ExceptT FaucetError (Dialogue Query Query.Answer) α

def ofNetwork {α : Type} (program : Network.Session α) : Session α :=
  program.embed .network fun _ r => r

def ofLedger {α : Type} (program : Ledger.Session α) : Session α :=
  program.embed .ledger fun _ r => r

def onChain {α : Type} (program : Network.Attempt ChainError α) : Attempt α :=
  ExceptT.mk do
    let r ← ofNetwork program.run
    return r.mapError .chain

def onLedger {α : Type} (program : Ledger.Session (Except Ledger.Error α)) : Attempt α :=
  ExceptT.mk do
    let r ← ofLedger program
    return r.mapError .ledger

end Faucet

end TokenFaucet
