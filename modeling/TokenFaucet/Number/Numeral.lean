import TokenFaucet.Bytes.Basic
import TokenFaucet.Text.CodePoints

set_option autoImplicit false

namespace TokenFaucet.Number

/-- Why a text is no decimal number below a bound. -/
inductive NumeralError where
  | empty
  | badDigit
  | tooLarge
deriving DecidableEq, Repr

def NumeralError.message : NumeralError → String
  | .empty => "cannot parse integer from empty string"
  | .badDigit => "invalid digit found in string"
  | .tooLarge => "number too large to fit in target type"

namespace Numeral

/-- The number that digits spell after those that spell `acc`. -/
def digits (bound acc : Nat) : List Char → Except NumeralError Nat
  | [] => .ok acc
  | c :: rest =>
    if !c.isDigit then .error .badDigit
    else
      let n := 10 * acc + (c.toNat - '0'.toNat)
      if n < bound then digits bound n rest else .error .tooLarge

/-- Reads digits, with or without a plus sign in front. -/
def parse (bound : Nat) (text : String) : Except NumeralError Nat :=
  match text.toList with
  | [] => .error .empty
  | ['+'] => .error .badDigit
  | '+' :: rest => digits bound 0 rest
  | cs => digits bound 0 cs

theorem digits_lt {bound acc n : Nat} {cs : List Char} (hacc : acc < bound)
    (h : digits bound acc cs = .ok n) : n < bound := by
  induction cs generalizing acc with
  | nil => simp only [digits, Except.ok.injEq] at h; omega
  | cons c rest ih =>
    simp only [digits] at h
    split at h
    · cases h
    · split at h
      · next hlt => exact ih hlt h
      · cases h

theorem parse_lt {bound n : Nat} {text : String} (hbound : 0 < bound)
    (h : parse bound text = .ok n) : n < bound := by
  unfold parse at h
  split at h
  · cases h
  · cases h
  · exact digits_lt hbound h
  · exact digits_lt hbound h

end Numeral

/-- Why bytes are no number of some base below a bound. -/
inductive RadixError where
  | badDigit (byte : UInt8)
  | tooLarge
deriving DecidableEq, Repr

/-- The wording of an error; a byte outside ASCII shows as the character of that number. -/
def RadixError.message : RadixError → String
  | .badDigit byte => "invalid digit: " ++ (Char.ofNat byte.toNat).toString
  | .tooLarge => "the value is too large to fit the target type"

namespace Radix

/-- The value of a digit or letter in bases up to 36. -/
def digit? (b : UInt8) : Option Nat :=
  let n := b.toNat
  if 0x30 ≤ n ∧ n ≤ 0x39 then some (n - 0x30)
  else if 0x61 ≤ n ∧ n ≤ 0x7A then some (n - 0x61 + 10)
  else if 0x41 ≤ n ∧ n ≤ 0x5A then some (n - 0x41 + 10)
  else none

/-- The number that digits spell after those that spell `acc`; underscores are passed over. -/
def digits (bound radix acc : Nat) : Bytes → Except RadixError Nat
  | [] => .ok acc
  | b :: rest =>
    if b = 0x5F then digits bound radix acc rest
    else
      match digit? b with
      | none => .error (.badDigit b)
      | some d =>
        if radix ≤ d then .error (.badDigit b)
        else if radix * acc + d < bound then digits bound radix (radix * acc + d) rest
        else .error .tooLarge

/-- Reads a number of that base; without any digit it is zero. -/
def parse (bound radix : Nat) (text : String) : Except RadixError Nat :=
  digits bound radix 0 (Bytes.ofString text)

theorem digits_lt {bound radix acc n : Nat} {bs : Bytes} (hacc : acc < bound)
    (h : digits bound radix acc bs = .ok n) : n < bound := by
  induction bs generalizing acc with
  | nil => simp only [digits, Except.ok.injEq] at h; omega
  | cons b rest ih =>
    simp only [digits] at h
    split at h
    · exact ih hacc h
    · split at h
      · cases h
      · split at h
        · cases h
        · split at h
          · next hlt => exact ih hlt h
          · cases h

theorem parse_lt {bound radix n : Nat} {text : String} (hbound : 0 < bound)
    (h : parse bound radix text = .ok n) : n < bound :=
  digits_lt hbound h

end Radix

end TokenFaucet.Number
