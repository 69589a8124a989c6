import TokenFaucet.Bytes.Base58

set_option autoImplicit false

namespace TokenFaucet.Solana

structure Address where
  bytes : Bytes
  length_bytes : bytes.length = 32
deriving DecidableEq

namespace Address

def ofBytes? (bs : Bytes) : Option Address :=
  if h : bs.length = 32 then some ⟨bs, h⟩ else none

/-- Reads 32 bytes in base 58. -/
def parse? (s : String) : Option Address :=
  match Bytes.Base58.decode s with
  | .ok bs => ofBytes? bs
  | .error _ => none

def text (a : Address) : String :=
  Bytes.Base58.encode a.bytes

/-- The program that moves lamports; its account is all zeros. -/
def systemProgram : Address := ⟨List.replicate 32 0, rfl⟩

/-- Whether a text may name a receiver: 32 bytes that are not all zero, in 32 to 44 characters. -/
def isValid (s : String) : Bool :=
  let size := s.utf8ByteSize
  32 ≤ size && size ≤ 44 &&
    match parse? s with
    | some a => a.bytes.any (· != 0)
    | none => false

end Address

end TokenFaucet.Solana
