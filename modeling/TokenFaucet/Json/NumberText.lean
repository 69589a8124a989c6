import TokenFaucet.Json.Basic
import TokenFaucet.Number.DecimalReading

set_option autoImplicit false

namespace TokenFaucet.Json

open TokenFaucet.Number (Binary64 DecimalReading.ofParts)

structure NumberText where
  negative : Bool
  whole : List Char
  fraction : Option (List Char)
  /-- The sign of the exponent and its digits. -/
  exponent : Option (Bool × List Char)
deriving DecidableEq

namespace NumberText

/-- The digits at the front of a text and what follows them. -/
def digits (cs : List Char) : List Char × List Char :=
  (cs.takeWhile Char.isDigit, cs.dropWhile Char.isDigit)

/-- The digits before the point: a single zero, or digits that do not start with one. -/
def whole? (cs : List Char) : Option (List Char × List Char) :=
  match digits cs with
  | ([], _) => none
  | ('0' :: _ :: _, _) => none
  | (ds, rest) => some (ds, rest)

/-- The point and the digits after it, of which there is at least one. -/
def fraction? : List Char → Option (Option (List Char) × List Char)
  | '.' :: cs =>
    match digits cs with
    | ([], _) => none
    | (ds, rest) => some (some ds, rest)
  | cs => some (none, cs)

/-- The sign and the digits of an exponent. -/
def exponentDigits? (negative : Bool) (cs : List Char) :
    Option (Option (Bool × List Char) × List Char) :=
  match digits cs with
  | ([], _) => none
  | (ds, rest) => some (some (negative, ds), rest)

def exponent? : List Char → Option (Option (Bool × List Char) × List Char)
  | e :: cs =>
    if e = 'e' ∨ e = 'E' then
      match cs with
      | '+' :: cs => exponentDigits? false cs
      | '-' :: cs => exponentDigits? true cs
      | cs => exponentDigits? false cs
    else some (none, e :: cs)
  | [] => some (none, [])

/-- Reads a literal at the front of a text; none where the text is none. -/
def read? (cs : List Char) : Option (NumberText × List Char) := do
  let (negative, cs) := match cs with
    | '-' :: cs => (true, cs)
    | cs => (false, cs)
  let (whole, cs) ← whole? cs
  let (fraction, cs) ← fraction? cs
  let (exponent, cs) ← exponent? cs
  some (⟨negative, whole, fraction, exponent⟩, cs)

/-- Gathers digits while 64 bits hold them: the significand and the digits that are left over. -/
def gather (significand : Nat) : List Char → Nat × List Char
  | [] => (significand, [])
  | c :: rest =>
    let next := 10 * significand + (c.toNat - '0'.toNat)
    if next < UInt64.size then gather next rest else (significand, c :: rest)

/-- The number a literal stands for; none when it is too large. Digits of the whole part that 64
bits do not hold count as zeros, such digits of the fraction are dropped, and an integer that a
word does not hold is a binary number. -/
def number? (t : NumberText) : Option Number :=
  let (significand, surplus) := gather 0 t.whole
  match t.fraction, t.exponent, surplus with
  | none, none, [] =>
    if !t.negative then some (.integer significand)
    else if 0 < significand ∧ significand ≤ UInt64.size / 2 then some (.integer (-significand))
    else some (.float (Binary64.ofNat significand).neg)
  | fraction, exponent, surplus =>
    let ds := fraction.getD []
    let (significand, dropped) := gather significand ds
    let places : Int := (surplus.length : Int) - (ds.length - dropped.length : Nat)
    let power : Int := match exponent with
      | none => 0
      | some (negative, ds) =>
        let n : Int := Nat.ofDigitChars 10 ds 0
        if negative then -n else n
    (DecimalReading.ofParts t.negative significand (places + power)).map .float

end NumberText

end TokenFaucet.Json
