import TokenFaucet.Bytes.Basic

set_option autoImplicit false

namespace TokenFaucet.Evm

inductive Rlp where
  | bytes (bs : Bytes)
  | list (items : List Rlp)

namespace Rlp

/-- What stands in front of a payload of that length; `offset` tells strings and lists apart. -/
def header (offset length : Nat) : Bytes :=
  if length < 56 then [UInt8.ofNat (offset + length)]
  else
    let digits := Bytes.minimal length
    UInt8.ofNat (offset + 55 + digits.length) :: digits

def encodeBytes (bs : Bytes) : Bytes :=
  match bs with
  | [b] => if b < 0x80 then [b] else header 0x80 1 ++ [b]
  | bs => header 0x80 bs.length ++ bs

mutual

def encode : Rlp → Bytes
  | .bytes bs => encodeBytes bs
  | .list items =>
    let payload := encodeAll items
    header 0xC0 payload.length ++ payload

/-- The bytes of items one after another. -/
def encodeAll : List Rlp → Bytes
  | [] => []
  | item :: rest => encode item ++ encodeAll rest

end

/-- A number without leading zero bytes. -/
def ofNat (n : Nat) : Rlp := .bytes (Bytes.minimal n)

end Rlp

end TokenFaucet.Evm
