import TokenFaucet.Amount
import TokenFaucet.Bytes.Hex
import TokenFaucet.Json.Verbatim
import TokenFaucet.Network.Exchange
import TokenFaucet.Network.Status
import TokenFaucet.Number.Numeral

set_option autoImplicit false

attribute [local instance (2000)] instPowNat

namespace TokenFaucet.Evm

open Json (Node)

inductive Failure where
  | unreachable (url : Url)
  | timedOut
  /-- A status that is no success, with the text of its body. -/
  | refused (status : Nat) (body : String)
  /-- An error that the node reports, with its data as they are written. -/
  | reported (code : Int) (message : String) (data : Option String)
  | malformed
  /-- A list of answers to a single request. -/
  | batch
deriving DecidableEq

def Failure.message : Failure → String
  | .unreachable url => Network.unreachableMessage url
  | .timedOut => "timed out"
  | .refused status "" => s!"HTTP error {status} with empty body"
  | .refused status body => s!"HTTP error {status} with body: {body}"
  | .reported code message data =>
    let data := match data with
      | some text => ", data: " ++ text
      | none => ""
    s!"server returned an error response: error code {code}: {message}{data}"
  | .malformed => "deserialization error"
  | .batch => "received batch response from single request"

namespace Reply

/-- The only member of a name. -/
inductive Member where
  | absent
  | repeated
  | present (node : Node)

def member (name : String) (members : List (Option String × Node)) : Member :=
  match members.filter fun m => m.1 == some name with
  | [] => .absent
  | [m] => .present m.2
  | _ => .repeated

/-- An error object: an integer code, a message that may be left out, and data. -/
def errorOf (text : Option String) (members : List (Option String × Node)) : Failure :=
  let code? := match member "code" members with
    | .present (.number (some (.integer i))) => if i ≤ Int64.maxValue.toInt then some i else none
    | _ => none
  let message? := match member "message" members with
    | .absent => some ""
    | .present (.string (some s)) => some s
    | _ => none
  let data? := match member "data" members with
    | .absent => some none
    | .present _ => some (text.bind (Json.Verbatim.member? "data"))
    | .repeated => none
  match code?, message?, data? with
  | some code, some message, some data => .reported code message data
  | _, _, _ => .malformed

/-- Whether a value may stand as the number of an answer. -/
def isId : Member → Bool
  | .absent => true
  | .present .null => true
  | .present (.string (some _)) => true
  | .present (.number (some (.integer i))) => 0 ≤ i
  | _ => false

/-- The result in the members of an answer. -/
def ofMembers (body : String) (members : List (Option String × Node)) : Except Failure Node :=
  if members.any fun m => m.1.isNone then .error .malformed
  else if !isId (member "id" members) then .error .malformed
  else
    match member "result" members, member "error" members with
    | .present result, .absent => .ok result
    | .absent, .present (.object fields _) =>
      .error (errorOf (Json.Verbatim.member? "error" body) fields)
    -- an error object may stand alone
    | .absent, .absent => .error (errorOf (some body) members)
    | _, _ => .error .malformed

/-- Whether a value is an answer of any kind. -/
def isAnswer : Node → Bool
  | .object members _ =>
    match ofMembers "" members with
    | .error .malformed => false
    | _ => true
  | _ => false

def ofBody (body : String) : Except Failure Node :=
  let d := Node.document body
  if !d.complete then .error .malformed
  else
    match d.root with
    | .object members _ => ofMembers body members
    | .array items _ => .error (if items.all isAnswer then .batch else .malformed)
    | _ => .error .malformed

/-- The result of an exchange. -/
def ofOutcome (url : Url) : Network.Outcome → Except Failure Node
  | .unreachable => .error (.unreachable url)
  | .timedOut => .error .timedOut
  | .answer status body =>
    if Network.Status.isSuccess status then ofBody body else .error (.refused status body)

/-- The base that a mark in front of digits announces, and the digits. -/
def radix (text : String) : Nat × String :=
  match text.toList with
  | '0' :: c :: rest =>
    match c.toLower with
    | 'x' => (16, String.ofList rest)
    | 'o' => (8, String.ofList rest)
    | 'b' => (2, String.ofList rest)
    | _ => (10, text)
  | _ => (10, text)

/-- Reads a quantity below a bound: digits after the mark of their base, or a number. -/
def quantity (bound : Nat) : Node → Except Failure Nat
  | .string (some s) =>
    let (base, digits) := radix s
    (Number.Radix.parse bound base digits).mapError fun _ => .malformed
  | .number (some (.integer i)) =>
    if 0 ≤ i ∧ i < bound then .ok i.toNat else .error .malformed
  | _ => .error .malformed

def amount (node : Node) : Except Failure MinorUnits := do
  match MinorUnits.ofNat? (← quantity (2 ^ MinorUnits.width) node) with
  | some a => return a
  | none => throw .malformed

def byteItems : List Node → Except Failure Bytes
  | [] => .ok []
  | .number (some (.integer i)) :: rest => do
    if i < 0 ∨ 256 ≤ i then throw .malformed
    let others ← byteItems rest
    return UInt8.ofNat i.toNat :: others
  | _ :: _ => .error .malformed

/-- Reads bytes in hexadecimal or as an array. -/
def bytes : Node → Except Failure Bytes
  | .string (some s) => (Bytes.Hex.decode s).mapError fun _ => .malformed
  | .array items _ => byteItems items
  | _ => .error .malformed

def hash (node : Node) : Except Failure Bytes := do
  let bs ← bytes node
  if bs.length = 32 then return bs else throw .malformed

end Reply

end TokenFaucet.Evm
