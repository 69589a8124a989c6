import TokenFaucet.Access.Doorman
import TokenFaucet.Http.Message

set_option autoImplicit false

namespace TokenFaucet.Access

open Network (Attempt)

/-- What a bearer's authorization starts with. -/
def bearer : String := "Bearer "

/-- Whether a header presents a bearer's token. -/
def isBearer (header : String) : Bool :=
  header.startsWith bearer && !Text.allBlank (header.drop bearer.length).toString

/-- The header that presents a bearer's token. -/
def bearerHeader : Option String → Except AccessError String
  | none => .error .missingHeader
  | some header =>
    if Http.HeaderText.isReadable header && isBearer header then .ok header
    else .error .badHeader

def callerOf (doorman : Option Doorman) (r : Http.Request) : Attempt AccessError String := do
  match r.caller with
  | some caller => return caller
  | none =>
    let header ← bearerHeader (r.header? "authorization")
    match doorman with
    | some doorman => doorman.authenticate header
    | none => throw .notConfigured

end TokenFaucet.Access
