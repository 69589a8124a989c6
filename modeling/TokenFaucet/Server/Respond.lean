import TokenFaucet.Faucet.Inventory
import TokenFaucet.Faucet.Transfer
import TokenFaucet.Server.Health
import TokenFaucet.Server.Route

set_option autoImplicit false

namespace TokenFaucet.Server

open Http (Request Response)

/-- The answer for a caller who is not let in. -/
def refusal (e : AccessError) : Response :=
  .json e.status (.object [("error", .string e.message), ("error_code", .string e.code)])

/-- The status for an error of the faucet: only what the caller can mend is the caller's. -/
def statusOf (e : FaucetError) : Nat :=
  match e.category with
  | .validation => 400
  | .notFound => 404
  | .remote => 500
  | .balance => 500
  | .storage => 500

/-- The answer for an error of the faucet. -/
def failure (e : FaucetError) : Response :=
  .json (statusOf e) (.object [("error", .string e.message)])

/-- A place in a body, as a path. -/
def placeText : List Json.Step → String
  | [] => ""
  | .item index :: rest => s!"[{index}]" ++ placeText rest
  | [.field name] => name
  | .field name :: .item index :: rest => name ++ placeText (.item index :: rest)
  | .field name :: rest => name ++ "." ++ placeText rest

/-- The longest body that is read, in bytes. -/
def maxBodyLength : Nat := 2097152

/-- The answer for a body that cannot be read. -/
def unreadableBody : Json.Fault → Response
  | .mismatch [] why =>
    .plain 422 s!"Failed to deserialize the JSON body into the target type: {why.message}"
  | .mismatch path why =>
    .plain 422
      ("Failed to deserialize the JSON body into the target type: " ++
        s!"{placeText path}: {why.message}")
  | fault => .plain 400 s!"Failed to parse the request body as JSON: {fault.message}"

/-- Reads a request for a transfer from a body, which has to be said to be JSON. -/
def readSend (r : Request) : Except Response Api.SendRequest :=
  if !r.isJson then
    .error (.plain 415 "Expected request with `Content-Type: application/json`")
  else if maxBodyLength < r.body.utf8ByteSize then
    .error (.plain 413 "Failed to buffer the request body: length limit exceeded")
  else (Json.readText Api.SendRequest.reading r.body).mapError unreadableBody

/-- The transfer that a request asks for, on a chain of some family. -/
def transferOf (kind : ChainKind) (r : Api.SendRequest) : Transfer :=
  ⟨kind, r.chainId, r.receiver, r.amount, r.symbol, r.token⟩

/-- Answers with the result of a program of the faucet. -/
def answerWith {α : Type} (program : Faucet.Attempt α) (toJson : α → Json) : Session Response := do
  match ← ofFaucet program.run with
  | .ok a => return .json 200 (toJson a)
  | .error e => return failure e

def forCaller (s : Server) (r : Request) (serve : String → Session Response) :
    Session Response := do
  match ← ofFaucet (Faucet.ofNetwork (Access.callerOf s.doorman r).run) with
  | .ok caller => serve caller
  | .error e => return refusal e

def send (s : Server) (kind : ChainKind) (r : Request) (caller : String) : Session Response :=
  match readSend r with
  | .ok body =>
    answerWith (s.faucet.dispatch caller (transferOf kind body)) fun id =>
      Api.SendResponse.toJson ⟨id⟩
  | .error response => .done response

/-- The answer of a route to a method that it has. -/
def serve (s : Server) (r : Request) : Route → Session Response
  | .send kind => s.forCaller r (s.send kind r)
  | .chains => answerWith s.faucet.chainList fun cs =>
      Api.Listing.toJson "chains" Api.ChainInfo.toJson ⟨cs⟩
  | .tokens => answerWith s.faucet.tokenList fun ts =>
      Api.Listing.toJson "tokens" Api.TokenInfo.toJson ⟨ts⟩
  | .balances => s.forCaller r fun caller =>
      answerWith (Faucet.balances caller) fun rs =>
        Api.Listing.toJson "balances" Ledger.Record.toJson ⟨rs⟩
  | .health => do return (← s.health).response
  | .liveness => .done alive

/-- The answer to a request. One who asks what is allowed is told so, on any path. -/
def respond (s : Server) (r : Request) : Session Response :=
  let route := Route.ofPath? r.path
  if r.method == "OPTIONS" then .done (.empty 200 (route.map Route.allow))
  else
    match route with
    | none => .done (.empty 404 none)
    | some route =>
      if !route.methods.contains r.method then .done (.empty 405 (some route.allow))
      else if r.method == "HEAD" then do return (← s.serve r route).withoutBody
      else s.serve r route

end TokenFaucet.Server
