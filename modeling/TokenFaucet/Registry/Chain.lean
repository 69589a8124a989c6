import TokenFaucet.Chain.Basic
import TokenFaucet.Registry.Token

set_option autoImplicit false

namespace TokenFaucet

/-- The registered chains, by family and then by id. -/
structure ChainRegistry where
  rows : List ((ChainKind × String) × Chain)

namespace ChainRegistry

def empty : ChainRegistry := ⟨[]⟩

def before (a b : ChainKind × String) : Bool :=
  a.1.rank < b.1.rank || (a.1 == b.1 && decide (a.2 < b.2))

def get? (r : ChainRegistry) (kind : ChainKind) (id : String) : Option Chain :=
  Table.find? (kind, id) r.rows

/-- Registers a chain, whose id must be new in its family. -/
def insert (r : ChainRegistry) (c : Chain) : Except RegistryError ChainRegistry :=
  match r.get? c.kind c.id with
  | some _ => .error (.duplicateChain c.kind c.id)
  | none => .ok ⟨Table.put before (c.kind, c.id) c r.rows⟩

/-- Registers chains one after another. -/
def insertAll (r : ChainRegistry) : List Chain → Except RegistryError ChainRegistry
  | [] => .ok r
  | c :: rest => do
    let r ← r.insert c
    r.insertAll rest

def toList (r : ChainRegistry) : List Chain :=
  r.rows.map (·.2)

/-- The families and ids as diagnostics show them. -/
def debug (r : ChainRegistry) : String :=
  Text.debugList (r.rows.map fun row => Text.debugQuoted s!"{row.1.1.name}:{row.1.2}")

end ChainRegistry

end TokenFaucet
