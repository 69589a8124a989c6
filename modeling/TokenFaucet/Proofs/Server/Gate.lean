import TokenFaucet.Proofs.Access.Caller
import TokenFaucet.Proofs.Faucet.FailFast
import TokenFaucet.Proofs.Ledger.Owner
import TokenFaucet.Proofs.Ledger.ReadBack
import TokenFaucet.Proofs.Server.Course

set_option autoImplicit false

namespace TokenFaucet

open Dialogue (Course)

namespace Faucet

variable {f : Faucet} {userId : String} {t : Transfer} {turns : List Turn}

end Faucet

namespace Server

open Http (Request Response)
open Network (Exchanged Outcome)

variable {s : Server} {r : Request} {turns : List Turn} {response : Response} {userId : String}

def balanceList (rows : List Ledger.Record) : Json :=
  Api.Listing.toJson "balances" Ledger.Record.toJson ⟨rows⟩

section Example

end Example

end Server

end TokenFaucet
