import TokenFaucet.Bytes.Basic
import TokenFaucet.Text.CodePoints

set_option autoImplicit false

namespace TokenFaucet.Bytes.Hex

inductive Error where
  | oddLength
  | badLength
  | badCharacter (byte : UInt8) (index : Nat)
deriving DecidableEq, Repr

/-- The wording of an error; a byte outside ASCII shows as the character of that number. -/
def Error.message : Error → String
  | .oddLength => "odd number of digits"
  | .badLength => "invalid string length"
  | .badCharacter byte index =>
    "invalid character '" ++ (Char.ofNat byte.toNat).toString ++ "' at position " ++ toString index

def digits (b : UInt8) : List Char :=
  [Nat.digitChar (b.toNat / 16), Nat.digitChar (b.toNat % 16)]

/-- The digits of bytes, in lower case. -/
def encode (bs : Bytes) : String :=
  String.ofList (bs.flatMap digits)

def digit? (b : UInt8) : Option Nat :=
  Text.hexDigit? (Char.ofNat b.toNat)

/-- Reads pairs of digits; `index` is the place of the first. -/
def pairs (index : Nat) : Bytes → Except Error Bytes
  | [] => .ok []
  | [_] => .error .oddLength
  | a :: b :: rest =>
    match digit? a, digit? b with
    | none, _ => .error (.badCharacter a index)
    | _, none => .error (.badCharacter b (index + 1))
    | some hi, some lo => do
      let others ← pairs (index + 2) rest
      return UInt8.ofNat (16 * hi + lo) :: others

/-- The bytes of a text without a `0x` or `0X` in front. -/
def withoutMark (s : String) : Bytes :=
  match ofString s with
  | 0x30 :: 0x78 :: rest => rest
  | 0x30 :: 0x58 :: rest => rest
  | bs => bs

def decode (s : String) : Except Error Bytes :=
  let ds := withoutMark s
  if ds.length % 2 = 1 then .error .oddLength else pairs 0 ds

/-- Reads exactly `count` bytes after an optional mark. -/
def decodeExact (count : Nat) (s : String) : Except Error Bytes :=
  let ds := withoutMark s
  if ds.length % 2 = 1 then .error .oddLength
  else if ds.length ≠ 2 * count then .error .badLength
  else pairs 0 ds

end TokenFaucet.Bytes.Hex
