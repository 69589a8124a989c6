import TokenFaucet.Bytes.Hex
import TokenFaucet.Hash.Keccak

set_option autoImplicit false

namespace TokenFaucet.Evm

/-- An account or a contract. -/
structure Address where
  bytes : Bytes
  length_bytes : bytes.length = 20
deriving DecidableEq

namespace Address

/-- Whether a text may name a receiver: `0x` and 40 digits that are not all zero. -/
def isValid (s : String) : Bool :=
  match s.toList with
  | '0' :: 'x' :: ds =>
    ds.length == 40 && ds.all (fun c => (Text.hexDigit? c).isSome) && ds.any (· != '0')
  | _ => false

def ofBytes? (bs : Bytes) : Option Address :=
  if h : bs.length = 20 then some ⟨bs, h⟩ else none

/-- Reads an account from 40 digits, with or without a mark in front. -/
def parse (s : String) : Except Bytes.Hex.Error Address := do
  let bs ← Bytes.Hex.decodeExact 20 s
  match ofBytes? bs with
  | some a => return a
  | none => throw .badLength

/-- The text in lower case. -/
def text (a : Address) : String :=
  "0x" ++ Bytes.Hex.encode a.bytes

/-- The text whose capital letters check it: a letter is a capital where the hash of the text in
lower case has a digit of eight or more. -/
def checksumText (a : Address) : String :=
  let lower := (Bytes.Hex.encode a.bytes).toList
  let hash := (Bytes.Hex.encode (Hash.keccak256 (Bytes.ofString (String.ofList lower)))).toList
  let chars := (lower.zip hash).map fun (c, h) =>
    if 8 ≤ (Text.hexDigit? h).getD 0 then c.toUpper else c
  "0x" ++ String.ofList chars

/-- The last 20 bytes of something longer. -/
def lastBytes (bs : Bytes) : Address :=
  ⟨Bytes.bigEndian 20 bs.toNat, Bytes.length_bigEndian ..⟩

end Address

end TokenFaucet.Evm
