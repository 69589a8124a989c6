import TokenFaucet.Number.Binary64

set_option autoImplicit false

attribute [local instance (2000)] instPowNat

/-!
Reading a decimal with one multiplication or division by a power of ten. Both the significand and
the power are rounded before the operation is, so the result can be one unit away from the nearest
number.
-/

namespace TokenFaucet.Number.DecimalReading

/-- The number nearest to `10 ^ n`. -/
def powerOfTen (n : Nat) : Binary64 :=
  .ofNat (10 ^ n)

/-- The largest power of ten that is a finite number. -/
def largestPower : Nat := 308

/-- Division by `10 ^ n`, in steps of the largest power of ten. -/
def divideByPower (x : Binary64) (n : Nat) : Binary64 :=
  if n ≤ largestPower then x.divFinite (powerOfTen n)
  else if x.isZero then x
  else divideByPower (x.divFinite (powerOfTen largestPower)) (n - largestPower)
termination_by n
decreasing_by simp only [largestPower] at *; omega

/-- The number read for `± significand · 10 ^ exponent`; none when it would be infinite. -/
def ofParts (negative : Bool) (significand : Nat) (exponent : Int) : Option Binary64 :=
  let x := Binary64.ofNat significand
  let magnitude :=
    if exponent < 0 then some (divideByPower x (-exponent).toNat)
    else if x.isZero then some x
    else if largestPower < exponent.toNat then none
    else
      let y := x.mulFinite (powerOfTen exponent.toNat)
      if y.isFinite then some y else none
  magnitude.map fun y => if negative then y.neg else y

end TokenFaucet.Number.DecimalReading
