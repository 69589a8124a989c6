import TokenFaucet.Bytes.Basic
import TokenFaucet.Text.Debug

set_option autoImplicit false

namespace TokenFaucet.Bytes.Base58

/-- The digits, in the order of their values. -/
def alphabet : List Char :=
  "123456789ABCDEFGHJKLMNPQRSTUVWXYZabcdefghijkmnopqrstuvwxyz".toList

def digitChar (n : Nat) : Char :=
  alphabet.getD n '1'

def digit? (c : Char) : Option Nat :=
  alphabet.findIdx? (· == c)

inductive Error where
  | badCharacter (c : Char) (index : Nat)
  | notAscii (index : Nat)
deriving DecidableEq, Repr

def Error.message : Error → String
  | .badCharacter c index =>
    s!"provided string contained invalid character {Text.debugChar c} at byte {index}"
  | .notAscii index =>
    s!"provided string contained non-ascii character starting at byte {index}"

/-- The digits of a number, the highest first; zero has none. -/
def numberDigits : Nat → Nat → List Char → List Char
  | 0, _, acc => acc
  | fuel + 1, n, acc =>
    if n = 0 then acc else numberDigits fuel (n / 58) (digitChar (n % 58) :: acc)

def encode (bs : Bytes) : String :=
  let zeros := bs.takeWhile (· == 0)
  String.ofList (List.replicate zeros.length '1' ++ numberDigits (2 * bs.length) bs.toNat [])

/-- The number that digits spell, if all of them are digits. -/
def number (index acc : Nat) : Bytes → Except Error Nat
  | [] => .ok acc
  | b :: rest =>
    if 127 < b.toNat then .error (.notAscii index)
    else
      match digit? (Char.ofNat b.toNat) with
      | some d => number (index + 1) (58 * acc + d) rest
      | none => .error (.badCharacter (Char.ofNat b.toNat) index)

def decode (s : String) : Except Error Bytes := do
  let cs := ofString s
  let n ← number 0 0 cs
  let ones := cs.takeWhile (· == 0x31)
  return List.replicate ones.length 0 ++ minimal n

/-- Reads a text that spells exactly `count` bytes. -/
def decodeExact? (count : Nat) (s : String) : Option Bytes :=
  match decode s with
  | .ok bs => if bs.length = count then some bs else none
  | .error _ => none

end TokenFaucet.Bytes.Base58
