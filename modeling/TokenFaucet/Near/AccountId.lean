set_option autoImplicit false

namespace TokenFaucet.Near.AccountId

def isNameChar (c : Char) : Bool :=
  ('a' ≤ c && c ≤ 'z') || ('0' ≤ c && c ≤ '9') || c == '-' || c == '_'

/-- A list without an ending, if it has that ending. -/
def withoutEnding? (ending cs : List Char) : Option (List Char) :=
  if ending.isSuffixOf cs then some (cs.take (cs.length - ending.length)) else none

/-- A name without its top-level account. -/
def name (cs : List Char) : List Char :=
  match withoutEnding? ".testnet".toList cs with
  | some rest => rest
  | none =>
    match withoutEnding? ".near".toList cs with
    | some rest => rest
    | none => cs

/-- Whether a text is an account: 2 to 64 bytes, a name that is not empty, and at most one of the
top-level accounts after it. -/
def isValid (s : String) : Bool :=
  let size := s.utf8ByteSize
  let base := name s.toList
  2 ≤ size && size ≤ 64 && !base.isEmpty && base.all isNameChar

end TokenFaucet.Near.AccountId
