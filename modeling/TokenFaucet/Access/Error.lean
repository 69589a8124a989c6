import TokenFaucet.Json.Reading
import TokenFaucet.Network.Exchange
import TokenFaucet.Network.Status

set_option autoImplicit false

namespace TokenFaucet

/-- Why the doorman gave no usable answer. -/
inductive DoormanFault where
  /-- The caller's header cannot be passed on. -/
  | unsendable
  | noAnswer (url : Url)
  | refused (status : Nat)
  | badUser (why : Json.Fault)

def DoormanFault.message : DoormanFault → String
  | unsendable => "builder error"
  | noAnswer url => Network.unreachableMessage url
  | refused status => s!"doorman answered {Network.Status.text status}"
  | badUser _ => "invalid user response: error decoding response body"

inductive AccessError where
  | missingHeader
  | badHeader
  | rejected
  | doorman (why : DoormanFault)
  /-- There is no doorman to ask. -/
  | notConfigured

namespace AccessError

def code : AccessError → String
  | missingHeader => "missing_auth_header"
  | badHeader => "invalid_auth_header"
  | rejected => "unauthorized"
  | doorman _ => "doorman_unavailable"
  | notConfigured => "auth_not_configured"

def message : AccessError → String
  | missingHeader => "Authorization header is required"
  | badHeader => "Invalid authorization header format (expected 'Bearer <token>')"
  | rejected => "Requester is unauthorized"
  | doorman why => s!"Authentication failed: {why.message}"
  | notConfigured => "Authentication is not configured"

def status (_ : AccessError) : Nat := 401

end AccessError

end TokenFaucet
