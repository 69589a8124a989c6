import TokenFaucet.ChainKind
import TokenFaucet.Table

set_option autoImplicit false

namespace TokenFaucet

/-- A token at one address on one or more EVM chains. -/
structure Token where
  address : String
  symbol : String
  name : String
  standard : TokenStandard
  decimals : UInt8
  /-- The ids of the chains, in ascending order. -/
  chains : List String
deriving DecidableEq

def Token.isOn (t : Token) (chainId : String) : Bool :=
  t.chains.contains chainId

/-- Why something could not be registered. -/
inductive RegistryError where
  | duplicateChain (kind : ChainKind) (id : String)
  | duplicateToken (address : String)
deriving DecidableEq

def RegistryError.message : RegistryError → String
  | .duplicateChain kind id => s!"Duplicate {kind.name} chain id `{id}`"
  | .duplicateToken address => s!"Duplicate token address `{address}`"

/-- The registered tokens, in the order of their addresses in lower case. -/
structure TokenRegistry where
  rows : List (String × Token)
deriving DecidableEq

namespace TokenRegistry

def empty : TokenRegistry := ⟨[]⟩

def get? (r : TokenRegistry) (address : String) : Option Token :=
  Table.find? (Text.lowerCase address) r.rows

/-- Registers a token under its address in lower case, which must be new. -/
def insert (r : TokenRegistry) (t : Token) : Except RegistryError TokenRegistry :=
  let address := Text.lowerCase t.address
  match Table.find? address r.rows with
  | some _ => .error (.duplicateToken address)
  | none => .ok ⟨Table.put (fun a b => decide (a < b)) address { t with address := address } r.rows⟩

def toList (r : TokenRegistry) : List Token :=
  r.rows.map (·.2)

end TokenRegistry

end TokenFaucet
