import TokenFaucet.ChainKind

set_option autoImplicit false

namespace TokenFaucet.Server

inductive Route where
  | send (kind : ChainKind)
  | chains
  | tokens
  | balances
  | health
  | liveness
deriving DecidableEq, Repr

namespace Route

def ofPath? : String → Option Route
  | "/v1/faucet/send/evm" => some (send .evm)
  | "/v1/faucet/send/solana" => some (send .solana)
  | "/v1/faucet/send/near" => some (send .near)
  | "/v1/faucet/chains" => some chains
  | "/v1/faucet/tokens" => some tokens
  | "/v1/faucet/balances" => some balances
  | "/health" => some health
  | "/health/ready" => some health
  | "/health/live" => some liveness
  | _ => none

/-- The methods of a route; what can be got can be asked for without its body, too. -/
def methods : Route → List String
  | send _ => ["POST"]
  | _ => ["GET", "HEAD"]

def allow (r : Route) : String :=
  String.intercalate "," r.methods

end Route

end TokenFaucet.Server
