import TokenFaucet.Amount
import TokenFaucet.Bytes.Utf8
import TokenFaucet.Evm.Address

set_option autoImplicit false

namespace TokenFaucet.Evm

/-- A method of a token contract that reads its state. -/
inductive TokenMethod where
  | symbol
  | decimals
  | balanceOf (holder : Address)

namespace TokenMethod

def name : TokenMethod → String
  | symbol => "symbol"
  | decimals => "decimals"
  | balanceOf _ => "balanceOf"

def addressWord (a : Address) : Bytes :=
  Bytes.padLeft 32 a.bytes

def amountWord (a : MinorUnits) : Bytes :=
  Bytes.bigEndian 32 a.toNat

/-- The four bytes and the arguments of a call. -/
def callData : TokenMethod → Bytes
  | symbol => [0x95, 0xD8, 0x9B, 0x41]
  | decimals => [0x31, 0x3C, 0xE5, 0x67]
  | balanceOf holder => [0x70, 0xA0, 0x82, 0x31] ++ addressWord holder

end TokenMethod

/-- The call that moves an amount of a token to a receiver. -/
def transferData (receiver : Address) (amount : MinorUnits) : Bytes :=
  [0xA9, 0x05, 0x9C, 0xBB] ++ TokenMethod.addressWord receiver ++ TokenMethod.amountWord amount

namespace ReturnData

/-- The number in the word at an offset. -/
def word? (bs : Bytes) (offset : Nat) : Option Nat :=
  let w := (bs.drop offset).take 32
  if w.length = 32 then some (Bytes.toNat w) else none

/-- The amount in the first word. -/
def amount? (bs : Bytes) : Option MinorUnits := do
  MinorUnits.ofNat? (← word? bs 0)

/-- The small number in the first word, of which only the last byte counts. -/
def uint8? (bs : Bytes) : Option UInt8 := do
  return UInt8.ofNat (← word? bs 0)

/-- The text behind the offset in the first word: a length and that many bytes. -/
def text? (bs : Bytes) : Option String := do
  let offset ← word? bs 0
  let length ← word? bs offset
  let start := offset + 32
  if bs.length < start + length then none
  else some (Bytes.lossyText ((bs.drop start).take length))

end ReturnData

end TokenFaucet.Evm
