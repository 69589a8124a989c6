import TokenFaucet.Json.Reading
import TokenFaucet.Network.Exchange
import TokenFaucet.Network.Status

set_option autoImplicit false

namespace TokenFaucet.Network

inductive CallError where
  | unreachable (url : Url)
  | timedOut
  /-- A status that is no success, with the text of its body. -/
  | refused (status : Nat) (body : String)
  | badBody (why : Json.Fault)
  /-- The error that the answer holds. -/
  | reported (error : Json)
  | noResult
  | badResult (why : Json.Fault)

namespace CallError

/-- The wording of an error that an answer holds; data that is a text is not quoted. -/
def describe (error : Json) : String :=
  let message := ((error.get? "message").bind Json.string?).getD "Unknown RPC error"
  let code := ((error.get? "code").bind Json.int64?).getD (-1)
  let data := match error.get? "data" with
    | some (.string s) => ": " ++ s
    | some .null => ""
    | some data => ": " ++ data.render
    | none => ""
  s!"{code} {message}{data}"

/-- The wording of a failed call of a method. -/
def message (method : String) : CallError → String
  | unreachable url => s!"{method}: {unreachableMessage url}"
  | timedOut => s!"{method}: timed out"
  | refused status body => s!"{method} failed with status {Status.text status}: {body}"
  | badBody why => s!"{method}: invalid JSON response: {why.message}"
  | reported error => s!"{method}: {describe error}"
  | noResult => s!"{method}: missing result"
  | badResult why => s!"{method}: unexpected result shape: {why.message}"

end CallError

def answerBody (url : Url) : Outcome → Except CallError Json
  | .unreachable => .error (.unreachable url)
  | .timedOut => .error .timedOut
  | .answer status body =>
    if Status.isSuccess status then (Json.parse body).mapError .badBody
    else .error (.refused status body)

/-- The result in an answer; where there is an error, it counts alone. -/
def resultOf {α : Type} (reading : Json.Reading α) (body : Json) : Except CallError α :=
  match body.get? "error" with
  | some error => .error (.reported error)
  | none =>
    match body.get? "result" with
    | some result => (Json.readValue reading result).mapError .badResult
    | none => .error .noResult

def Client.call {α : Type} (client : Client) (method : String) (params : Json)
    (reading : Json.Reading α) : Attempt CallError α := do
  let outcome ← exchange ⟨client, .call method (some params)⟩
  let body ← answerBody client.url outcome
  resultOf reading body

def anyValue : Json.Reading Json := Json.Reading.json Json.maxDepth

end TokenFaucet.Network
