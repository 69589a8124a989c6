import TokenFaucet.Bytes.Utf8
import TokenFaucet.Json.Printer
import TokenFaucet.Network.Exchange
import TokenFaucet.Number.Numeral

set_option autoImplicit false

namespace TokenFaucet.Http.Wire

open Network (Payload Outcome)

def callBody (number : Nat) (method : String) (params : Option Json) : Json :=
  .object
    ([("jsonrpc", .string "2.0"), ("id", .ofNat number), ("method", .string method)] ++
      (params.map fun p => ("params", p)).toList)

/-- The path that is asked for on a server. -/
def target (url : Url) : String :=
  (if url.path.isEmpty then "/" else url.path) ++ (url.query.map ("?" ++ ·)).getD ""

def requestText (verb : String) (url : Url) (headers : List (String × String)) (body : String) :
    String :=
  let headers := [("Host", url.authority), ("Connection", "close")] ++ headers
  s!"{verb} {target url} HTTP/1.0\r\n" ++
    String.join (headers.map fun h => s!"{h.1}: {h.2}\r\n") ++ "\r\n" ++ body

def request (url : Url) (number : Nat) : Payload → String
  | .call method params =>
    let body := (callBody number method params).render
    requestText "POST" url
      [("Content-Type", "application/json"), ("Content-Length", toString body.utf8ByteSize)] body
  | .identify authorization => requestText "GET" url [("Authorization", authorization)] ""

/-- What stands before and after the first blank line. -/
def splitHead? : Bytes → Option (Bytes × Bytes)
  | 13 :: 10 :: 13 :: 10 :: rest => some ([], rest)
  | b :: rest => (splitHead? rest).map fun (head, body) => (b :: head, body)
  | [] => none

/-- The status in the first line of an answer. -/
def status? (head : Bytes) : Option Nat :=
  let line := head.takeWhile (· ≠ 13)
  match (Bytes.lossyText line).splitOn " " with
  | version :: status :: _ =>
    if version.startsWith "HTTP/1." then (Number.Numeral.parse 1000 status).toOption else none
  | _ => none

/-- The outcome that the bytes of a connection make. -/
def outcome (bytes : Bytes) : Outcome :=
  match splitHead? bytes with
  | none => .unreachable
  | some (head, body) =>
    match status? head with
    | some status => .ofMessage status (Bytes.lossyText body)
    | none => .unreachable

end TokenFaucet.Http.Wire
