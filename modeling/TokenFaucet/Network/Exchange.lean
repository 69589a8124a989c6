import TokenFaucet.Dialogue
import TokenFaucet.Json.Basic
import TokenFaucet.Network.Status
import TokenFaucet.Url.Basic

set_option autoImplicit false

namespace TokenFaucet.Network

/-- What is sent: a call of a remote method, or a question who a caller is. -/
inductive Payload where
  | call (method : String) (params : Option Json)
  | identify (authorization : String)

/-- One who sends requests to an address and waits for each answer up to a limit, in milliseconds.
The requests of a client are numbered in the order in which they are sent. -/
structure Client where
  name : String
  url : Url
  limit : Nat
  /-- The number of the first request. -/
  firstNumber : Nat
deriving DecidableEq

/-- A request: the client that sends it, and what is sent. -/
structure Request where
  client : Client
  payload : Payload

/-- How an exchange ends. -/
inductive Outcome where
  /-- No connection, or a connection closed without an answer. -/
  | unreachable
  /-- No answer within the time that the client allows. -/
  | timedOut
  /-- A status and the text of a body. -/
  | answer (status : Nat) (body : String)
deriving DecidableEq

/-- How an exchange ends that brings one message before the connection closes: a message that is not the
answer leaves none, and what follows a message that ends at its head is not read. -/
def Outcome.ofMessage (status : Nat) (body : String) : Outcome :=
  if !Status.isCode status || Status.isInterim status then .unreachable
  else .answer status (if Status.endsAtHead status then "" else body)

/-- A question of a program that uses the network. -/
inductive Query where
  | exchange (request : Request)
  | acquire (lane : String)
  | release (lane : String)

def Query.Answer : Query → Type
  | exchange _ => Outcome
  | acquire _ => Unit
  | release _ => Unit

abbrev Session (α : Type) := Dialogue Query Query.Answer α

/-- A program that uses the network and may fail. -/
abbrev Attempt (ε α : Type) := ExceptT ε (Dialogue Query Query.Answer) α

/-- Sends a request and waits for its outcome. -/
def exchange (request : Request) : Session Outcome :=
  Dialogue.query (Query.exchange request)

/-- Runs a program while holding a lane. -/
def holding {α : Type} (lane : String) (program : Session α) : Session α := do
  Dialogue.query (Query.acquire lane)
  let a ← program
  Dialogue.query (Query.release lane)
  return a

/-- The words for an exchange that did not take place. -/
def unreachableMessage (url : Url) : String :=
  s!"error sending request for url ({url.withoutCredentials.text})"

end TokenFaucet.Network
