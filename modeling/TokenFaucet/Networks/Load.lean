import TokenFaucet.Event
import TokenFaucet.Networks.Build

set_option autoImplicit false

/-!
The networks of a faucet: set up, checked against the nodes, and registered. A node of another chain
than the configured one is fatal; a node that cannot be reached is noted and passed over, so that a
faucet starts while one node is down.
-/

namespace TokenFaucet

structure Networks where
  signers : Signers
  chains : ChainRegistry
  tokens : TokenRegistry

namespace Networks

/-- A question to a network, or something to note. -/
inductive Query where
  | network (q : Network.Query)
  | note (e : Event)

def Query.Answer : Query → Type
  | network q => q.Answer
  | note _ => Unit

/-- A program that uses networks and takes notes. -/
abbrev Session (α : Type) := Dialogue Query Query.Answer α

def ofNetwork {α : Type} (program : Network.Session α) : Session α :=
  program.embed .network fun _ r => r

def note (e : Event) : Session Unit :=
  .ask (.note e) .done

/-- Checks the ids of EVM chains in order. -/
def verifyEvm : List EvmChain → Session (Except ConfigError Unit)
  | [] => .done (.ok ())
  | c :: rest => do
    match ← ofNetwork c.verifyChainId.run with
    | .ok () => verifyEvm rest
    | .error e =>
      if e.category == .chainId then .done (.error (.chain e))
      else
        note (.warn "EVM node unreachable, chain id not verified" (some e.message))
        verifyEvm rest

/-- Asks a cluster's node for its version. -/
def probeSolana (c : SolanaChain) : Session Unit := do
  match ← ofNetwork c.version.run with
  | .ok _ => note (.info "Solana node reachable")
  | .error e => note (.warn "Solana node unreachable" (some e.message))

/-- Checks the nodes of chains that were set up. -/
def verify (b : Built) : Session (Except ConfigError Unit) := do
  match ← verifyEvm b.evm with
  | .error e => .done (.error e)
  | .ok () =>
    match b.solana with
    | some c => probeSolana c
    | none => .done ()
    .done (.ok ())

/-- Registers the chains and tokens of a layout. -/
def register (l : Layout) (s : Signers) (b : Built) : Except ConfigError Networks := do
  let chains ← (ChainRegistry.empty.insertAll b.toList).mapError .registry
  let tokens ← buildTokens l
  return ⟨s, chains, tokens⟩

/-- Sets up, checks and registers everything that a layout describes. -/
def load (l : Layout) (secrets : Secrets) (limit : Nat) : Session (Except ConfigError Networks) :=
  match Signers.ofSecrets l secrets with
  | .error e => .done (.error e)
  | .ok signers =>
    match build l signers limit with
    | .error e => .done (.error e)
    | .ok built => do
      match ← verify built with
      | .error e => .done (.error e)
      | .ok () =>
        match register l signers built with
        | .error e => .done (.error e)
        | .ok networks =>
          note (.info "Faucet networks loaded")
          .done (.ok networks)

end Networks

end TokenFaucet
