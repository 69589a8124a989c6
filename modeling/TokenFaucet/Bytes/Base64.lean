import TokenFaucet.Bytes.Basic

set_option autoImplicit false

attribute [local instance (2000)] instPowNat

namespace TokenFaucet.Bytes.Base64

def digitChar (n : Nat) : Char :=
  if n < 26 then Char.ofNat ('A'.toNat + n)
  else if n < 52 then Char.ofNat ('a'.toNat + (n - 26))
  else if n < 62 then Char.ofNat ('0'.toNat + (n - 52))
  else if n = 62 then '+'
  else '/'

def digit? (c : Char) : Option Nat :=
  if 'A' ≤ c ∧ c ≤ 'Z' then some (c.toNat - 'A'.toNat)
  else if 'a' ≤ c ∧ c ≤ 'z' then some (c.toNat - 'a'.toNat + 26)
  else if '0' ≤ c ∧ c ≤ '9' then some (c.toNat - '0'.toNat + 52)
  else if c = '+' then some 62
  else if c = '/' then some 63
  else none

/-- The four digits of a number of 24 bits. -/
def group (n : Nat) : List Char :=
  [digitChar (n / 64 / 64 / 64 % 64), digitChar (n / 64 / 64 % 64), digitChar (n / 64 % 64),
    digitChar (n % 64)]

def chars : Bytes → List Char
  | [] => []
  | [a] => (group (a.toNat * 256 * 256)).take 2 ++ ['=', '=']
  | [a, b] => (group ((a.toNat * 256 + b.toNat) * 256)).take 3 ++ ['=']
  | a :: b :: c :: rest => group ((a.toNat * 256 + b.toNat) * 256 + c.toNat) ++ chars rest

def encode (bs : Bytes) : String :=
  String.ofList (chars bs)

/-- The bytes of a group with some digits filled up; the bits that the missing bytes would hold have
to be zero. -/
def groupBytes? (n missing : Nat) : Option Bytes :=
  if n % 256 ^ missing = 0 then some ((bigEndian 3 n).take (3 - missing)) else none

def bytes? : List Char → Option Bytes
  | [] => some []
  | [a, b, '=', '='] => do
    groupBytes? (((← digit? a) * 64 + (← digit? b)) * 64 * 64) 2
  | [a, b, c, '='] => do
    groupBytes? ((((← digit? a) * 64 + (← digit? b)) * 64 + (← digit? c)) * 64) 1
  | a :: b :: c :: d :: rest => do
    let n := (((← digit? a) * 64 + (← digit? b)) * 64 + (← digit? c)) * 64 + (← digit? d)
    return bigEndian 3 n ++ (← bytes? rest)
  | _ => none

def decode? (s : String) : Option Bytes :=
  bytes? s.toList

end TokenFaucet.Bytes.Base64
