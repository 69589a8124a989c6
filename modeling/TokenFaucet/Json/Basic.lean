import TokenFaucet.Number.Binary64

set_option autoImplicit false

/-!
JSON values. A number is an integer of at most 64 bits or a binary number; the members of an object
stand in the order in which they are written, and those of an object that was read in ascending
order of their names, each name once.
-/

namespace TokenFaucet

inductive Json.Number where
  | integer (i : Int)
  | float (x : TokenFaucet.Number.Binary64)
deriving DecidableEq

inductive Json where
  | null
  | bool (b : Bool)
  | number (n : Json.Number)
  | string (s : String)
  | array (items : List Json)
  | object (members : List (String × Json))

namespace Json

/-- Puts a member at the place of its name, in place of one of the same name. -/
def insertMember (name : String) (value : Json) :
    List (String × Json) → List (String × Json)
  | [] => [(name, value)]
  | (n, v) :: rest =>
    if name < n then (name, value) :: (n, v) :: rest
    else if name = n then (name, value) :: rest
    else (n, v) :: insertMember name value rest

/-- The object with those members; of two of one name the later counts. -/
def ofMembers (members : List (String × Json)) : Json :=
  .object (members.foldl (fun acc m => insertMember m.1 m.2 acc) [])

/-- The member of that name, if the value is an object that has one. -/
def get? (name : String) : Json → Option Json
  | .object members => (members.find? fun m => m.1 == name).map (·.2)
  | _ => none

def string? : Json → Option String
  | .string s => some s
  | _ => none

/-- The value as an integer that a signed word of 64 bits holds. -/
def int64? : Json → Option Int
  | .number (.integer i) => if i ≤ Int64.maxValue.toInt then some i else none
  | _ => none

def ofNat (n : Nat) : Json := .number (.integer n)

end Json

end TokenFaucet
