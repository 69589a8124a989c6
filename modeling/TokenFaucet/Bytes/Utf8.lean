import TokenFaucet.Bytes.Basic

set_option autoImplicit false

namespace TokenFaucet.Bytes

/-- What a first byte announces: how many bytes follow, the bits it holds itself, and the range of
the second byte, which excludes overlong forms, surrogates and too large code points. -/
def lead? (b : Nat) : Option (Nat × Nat × Nat × Nat) :=
  if 0xC2 ≤ b ∧ b ≤ 0xDF then some (1, b % 0x20, 0x80, 0xBF)
  else if b = 0xE0 then some (2, 0, 0xA0, 0xBF)
  else if b = 0xED then some (2, 0xD, 0x80, 0x9F)
  else if 0xE1 ≤ b ∧ b ≤ 0xEF then some (2, b % 0x10, 0x80, 0xBF)
  else if b = 0xF0 then some (3, 0, 0x90, 0xBF)
  else if 0xF1 ≤ b ∧ b ≤ 0xF3 then some (3, b % 8, 0x80, 0xBF)
  else if b = 0xF4 then some (3, 4, 0x80, 0x8F)
  else none

/-- Reads the bytes that follow a first byte. -/
def continuation (lo hi acc : Nat) : Nat → Bytes → Char × Bytes
  | 0, rest => (Char.ofNat acc, rest)
  | _ + 1, [] => ('\ufffd', [])
  | count + 1, b :: rest =>
    if lo ≤ b.toNat ∧ b.toNat ≤ hi then
      continuation 0x80 0xBF (acc * 64 + b.toNat % 64) count rest
    else ('\ufffd', b :: rest)

/-- One character and what follows it. -/
def nextChar (b : UInt8) (rest : Bytes) : Char × Bytes :=
  if b.toNat < 0x80 then (Char.ofNat b.toNat, rest)
  else
    match lead? b.toNat with
    | some (count, acc, lo, hi) => continuation lo hi acc count rest
    | none => ('\ufffd', rest)

/-- The characters of bytes; at least one byte goes into each. -/
def lossyChars : Nat → Bytes → List Char
  | 0, _ => []
  | _ + 1, [] => []
  | fuel + 1, b :: rest =>
    let (c, rest) := nextChar b rest
    c :: lossyChars fuel rest

/-- The text of bytes, with U+FFFD for what is not UTF-8. -/
def lossyText (bs : Bytes) : String :=
  String.ofList (lossyChars bs.length bs)

def utf8? (bs : Bytes) : Option String :=
  String.fromUTF8? ⟨bs.toArray⟩

end TokenFaucet.Bytes
