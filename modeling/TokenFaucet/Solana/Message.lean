import TokenFaucet.Solana.Address

set_option autoImplicit false

namespace TokenFaucet.Solana

/-- A length of 16 bits: seven bits to a byte, the lowest first, the top bit set on all but the
last. -/
def shortLength (n : Nat) : Bytes :=
  if n < 128 then [UInt8.ofNat n]
  else UInt8.ofNat (n % 128 + 128) :: shortLength (n / 128)
termination_by n
decreasing_by omega

structure Transfer where
  sender : Bytes
  receiver : Bytes
  lamports : UInt64
  blockhash : Bytes

namespace Transfer

/-- The data of the instruction: the number of the instruction and the lamports. -/
def instructionData (t : Transfer) : Bytes :=
  Bytes.littleEndian 4 2 ++ Bytes.littleEndian 8 t.lamports.toNat

/-- The message that is signed: one account signs, the program's account is only read. -/
def message (t : Transfer) : Bytes :=
  let data := t.instructionData
  [1, 0, 1] ++ shortLength 3 ++ t.sender ++ t.receiver ++ Address.systemProgram.bytes ++
    t.blockhash ++ shortLength 1 ++ [2] ++ shortLength 2 ++ [0, 1] ++
    shortLength data.length ++ data

end Transfer

def signedMessage (signature message : Bytes) : Bytes :=
  shortLength 1 ++ signature ++ message

end TokenFaucet.Solana
