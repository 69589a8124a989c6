import TokenFaucet.Access.Caller
import TokenFaucet.Proofs.Network.Inquiry
import TokenFaucet.Proofs.Result

set_option autoImplicit false

namespace TokenFaucet

open Dialogue (Course)
open Network (Outcome Turn inquire)

namespace Doorman

/-- The outcome names a user: a success with the user's record, whose id is not blank. -/
def Names (outcome : Outcome) (userId : String) : Prop :=
  ∃ status body, outcome = .answer status body ∧ 200 ≤ status ∧ status < 300 ∧
    Json.readText userReading body = .ok userId ∧ Text.allBlank userId = false

/-- The request that shows the doorman an authorization. -/
def request (d : Doorman) (authorization : String) : Network.Request :=
  ⟨d.client, .identify authorization⟩

end Doorman

namespace Access

end Access

end TokenFaucet
