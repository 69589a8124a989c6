import TokenFaucet.Access.Error
import TokenFaucet.Config.Settings
import TokenFaucet.Http.HeaderText

set_option autoImplicit false

namespace TokenFaucet

open Network (Attempt exchange)

structure Doorman where
  client : Network.Client
deriving DecidableEq

namespace Doorman

/-- Where a doorman is asked, on its server. -/
def path : String := "/doorman/authenticate"

/-- How long to wait for an answer, in milliseconds. -/
def limit : Nat := 15000

/-- The doorman at an address, of which only the server counts. -/
def ofAddress (address : String) : Except Settings.Error Doorman :=
  match (Url.parse address).bind (·.onServer path) with
  | .ok url => .ok ⟨⟨"doorman", url, limit, 1⟩⟩
  | .error why => .error ⟨Settings.doormanVariable, .address why⟩

def endpoint (d : Doorman) : Url := d.client.url

/-- Reads who the doorman says the caller is. -/
def userReading : Json.Reading String :=
  let id := Json.Reading.required "id" Json.Reading.string
  Json.Reading.record "DoormanUser" [id.slot] fun found => found.get id

/-- The statuses that turn a caller away. -/
def turnsAway (status : Nat) : Bool :=
  status == 400 || status == 401 || status == 403

/-- The user in an answer; a blank name is nobody's. -/
def userOf (d : Doorman) : Network.Outcome → Except AccessError String
  | .unreachable => .error (.doorman (.noAnswer d.endpoint))
  | .timedOut => .error (.doorman (.noAnswer d.endpoint))
  | .answer status body =>
    if turnsAway status then .error .rejected
    else if !Network.Status.isSuccess status then .error (.doorman (.refused status))
    else
      match Json.readText userReading body with
      | .error why => .error (.doorman (.badUser why))
      | .ok user => if Text.allBlank user then .error .rejected else .ok user

def authenticate (d : Doorman) (authorization : String) : Attempt AccessError String := do
  if !Http.HeaderText.isSendable authorization then throw (.doorman .unsendable)
  let outcome ← exchange ⟨d.client, .identify authorization⟩
  d.userOf outcome

end Doorman

end TokenFaucet
