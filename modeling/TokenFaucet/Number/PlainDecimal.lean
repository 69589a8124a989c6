import TokenFaucet.Number.Binary64

set_option autoImplicit false

attribute [local instance (2000)] instPowNat

namespace TokenFaucet.Number

/-- A decimal as it is written: digits before the point and digits after it, at least one of them. -/
structure PlainDecimal where
  whole : List Char
  fraction : List Char
  digits : (whole ++ fraction).all Char.isDigit = true
  nonempty : whole ++ fraction ≠ []
deriving DecidableEq

namespace PlainDecimal

/-- The decimal with these parts, if they are its digits. -/
def ofParts? (whole fraction : List Char) : Option PlainDecimal :=
  if valid : (whole ++ fraction).all Char.isDigit = true ∧ whole ++ fraction ≠ [] then
    some ⟨whole, fraction, valid.1, valid.2⟩
  else none

/-- Reads digits, with or without a point. -/
def read? (text : List Char) : Option PlainDecimal :=
  match text.dropWhile (· != '.') with
  | [] => ofParts? text []
  | _ :: fraction => ofParts? (text.takeWhile (· != '.')) fraction

/-- All digits as one integer. -/
def numerator (t : PlainDecimal) : Nat :=
  Nat.ofDigitChars 10 (t.whole ++ t.fraction) 0

/-- What the integer is to be divided by. -/
def denominator (t : PlainDecimal) : Nat :=
  10 ^ t.fraction.length

/-- The binary number nearest to the decimal. -/
def nearest (t : PlainDecimal) : Binary64 :=
  .ofRatio false t.numerator t.denominator

end PlainDecimal

end TokenFaucet.Number
