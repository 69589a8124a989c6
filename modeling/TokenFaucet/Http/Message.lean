import TokenFaucet.Http.HeaderText
import TokenFaucet.Http.MediaType
import TokenFaucet.Json.Printer

set_option autoImplicit false

namespace TokenFaucet.Http

structure Request where
  method : String
  /-- The path, with what follows it. -/
  target : String
  headers : List (String × String)
  body : String
  /-- Who the caller is, if that was found out before the request came here. -/
  caller : Option String

namespace Request

/-- The path that a request asks for; a query changes nothing. -/
def path (r : Request) : String :=
  String.ofList (r.target.toList.takeWhile fun c => c ≠ '?' && c ≠ '#')

/-- The value of a header; of several headers of one name the first counts. -/
def header? (r : Request) (name : String) : Option String :=
  (r.headers.find? fun h => HeaderText.sameName h.1 name).map (·.2)

/-- Whether the headers say that the body is JSON. -/
def isJson (r : Request) : Bool :=
  match r.header? "content-type" with
  | some value => HeaderText.isReadable value && (MediaType.parse? value).any MediaType.isJson
  | none => false

end Request

structure Response where
  status : Nat
  contentType : Option String
  /-- The methods that the path has, where they are told. -/
  allow : Option String
  body : String
deriving DecidableEq

namespace Response

/-- The origins that may read an answer. -/
def allowedOrigin : String := "*"

def empty (status : Nat) (allow : Option String) : Response := ⟨status, none, allow, ""⟩

def json (status : Nat) (body : Json) : Response :=
  ⟨status, some "application/json", none, body.render⟩

def plain (status : Nat) (body : String) : Response :=
  ⟨status, some "text/plain; charset=utf-8", none, body⟩

/-- The same answer to one who does not want the body. -/
def withoutBody (r : Response) : Response := { r with body := "" }

end Response

end TokenFaucet.Http
