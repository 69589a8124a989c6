import TokenFaucet.Proofs.Ledger.Readable
import TokenFaucet.Proofs.Result

set_option autoImplicit false

namespace TokenFaucet.Ledger

open Number (Binary64)

namespace Store

variable {s s' : Store}

end Store

variable {userId : String} {q : Query} {a : q.Answer} {s s' : Store}

end TokenFaucet.Ledger
