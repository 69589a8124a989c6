import TokenFaucet.Number.Numeral
import TokenFaucet.Number.PlainDecimal
import TokenFaucet.Text.Blank

set_option autoImplicit false

attribute [local instance (2000)] instPowNat

/-!
Amounts of a currency. On a chain an amount is a whole number of minor units below `2 ^ 256`, and
it stays one from the request to the transaction; the binary value in whole units is for display
and for the ledger only.
-/

namespace TokenFaucet

def MinorUnits.width : Nat := 256

/-- A number of minor units: what 256 bits can hold. -/
structure MinorUnits where
  toNat : Nat
  toNat_lt : toNat < 2 ^ MinorUnits.width
deriving DecidableEq

namespace MinorUnits

theorem toNat_inj {a b : MinorUnits} : a.toNat = b.toNat ↔ a = b := by
  cases a
  cases b
  simp

def zero : MinorUnits := ⟨0, by decide⟩

/-- The amount of that many units, if 256 bits hold it. -/
def ofNat? (n : Nat) : Option MinorUnits :=
  if h : n < 2 ^ width then some ⟨n, h⟩ else none

theorem ofNat?_eq_some_iff {n : Nat} {a : MinorUnits} : ofNat? n = some a ↔ a.toNat = n := by
  unfold ofNat?
  split
  · rw [Option.some.injEq, ← toNat_inj]
    exact eq_comm
  · next large =>
    refine iff_of_false nofun ?_
    rintro rfl
    exact large a.toNat_lt

/-- The order of amounts. -/
def le (a b : MinorUnits) : Bool :=
  a.toNat ≤ b.toNat

def digits (a : MinorUnits) : List Char :=
  Nat.toDigits 10 a.toNat

instance : ToString MinorUnits := ⟨fun a => String.ofList a.digits⟩

end MinorUnits

inductive AmountError where
  | empty
  | notInteger (text : String)
  | overflow
  | notPositive
deriving DecidableEq, Repr

def AmountError.message : AmountError → String
  | .empty => "amount is required"
  | .notInteger text =>
    "amount must be a non-negative integer in minor units, got `" ++ text ++ "`"
  | .overflow => "amount does not fit in 256 bits"
  | .notPositive => "amount must be greater than 0"

namespace MinorUnits

/-- Reads an amount in digits of a base. -/
def ofRadix (radix : Nat) (text : String) : Except Number.RadixError MinorUnits :=
  match read : Number.Radix.parse (2 ^ width) radix text with
  | .ok n => .ok ⟨n, Number.Radix.parse_lt (by decide) read⟩
  | .error why => .error why

theorem map_toNat_ofRadix (radix : Nat) (text : String) :
    (ofRadix radix text).map toNat = Number.Radix.parse (2 ^ width) radix text := by
  unfold ofRadix
  split
  · next n read => exact read.symm
  · next why read => exact read.symm

theorem ofRadix_eq_ok_iff {radix : Nat} {text : String} {a : MinorUnits} :
    ofRadix radix text = .ok a ↔ Number.Radix.parse (2 ^ width) radix text = .ok a.toNat := by
  rw [← map_toNat_ofRadix]
  cases ofRadix radix text with
  | error why => exact iff_of_false nofun nofun
  | ok b =>
    change _ ↔ Except.ok b.toNat = _
    rw [Except.ok.injEq, Except.ok.injEq, toNat_inj]

theorem ofRadix_eq_error_iff {radix : Nat} {text : String} {why : Number.RadixError} :
    ofRadix radix text = .error why ↔ Number.Radix.parse (2 ^ width) radix text = .error why := by
  rw [← map_toNat_ofRadix]
  cases ofRadix radix text with
  | error why' =>
    change _ ↔ Except.error why' = _
    rw [Except.error.injEq, Except.error.injEq]
  | ok b => exact iff_of_false nofun nofun

/-- Reads decimal digits, blanks around them allowed. -/
def parse (text : String) : Except AmountError MinorUnits :=
  let numeral := Text.trim text
  if numeral.toList.isEmpty then .error .empty
  else if !numeral.toList.all Char.isDigit then .error (.notInteger numeral)
  else (ofRadix 10 numeral).mapError fun _ => .overflow

/-- Reads an amount that can be transferred, which is not zero. -/
def parseTransfer (text : String) : Except AmountError MinorUnits := do
  let a ← parse text
  if a.le zero then .error .notPositive else .ok a

/-- Digits with zeros in front, so that there is one more than there are places. -/
def padded (digits : List Char) (places : Nat) : List Char :=
  List.replicate (places + 1 - digits.length) '0' ++ digits

/-- How many of the padded digits stand before the point. -/
def point (digits : List Char) (places : Nat) : Nat :=
  (padded digits places).length - places

/-- Digits with a point before the last `places` of them, without zeros at the end of the fraction
and without a point when no fraction is left. -/
def withPoint (digits : List Char) (places : Nat) : List Char :=
  let whole := (padded digits places).take (point digits places)
  let fraction :=
    (((padded digits places).drop (point digits places)).reverse.dropWhile (· == '0')).reverse
  if fraction.isEmpty then whole else whole ++ '.' :: fraction

/-- The exact value in whole units, for a currency with that many decimal places. -/
def format (a : MinorUnits) (decimals : UInt8) : String :=
  if a.toNat = 0 then "0"
  else String.ofList (withPoint a.digits decimals.toNat)

/-- The value in whole units as a binary number: what the text of the exact value is read as. -/
def toHuman (a : MinorUnits) (decimals : UInt8) : Number.Binary64 :=
  match Number.PlainDecimal.read? (a.format decimals).toList with
  | some t => t.nearest
  | none => .infinity false

end MinorUnits

end TokenFaucet
