set_option autoImplicit false

-- powers of numbers are those of core, whatever else is imported
attribute [local instance (2000)] instPowNat

/-!
Binary floating-point numbers of 64 bits. A finite number is `± significand · 2 ^ scale`; every
operation is the exact result rounded to the nearest such number, ties to the even significand, so
sums, products and quotients are statements about natural numbers.
-/

namespace TokenFaucet.Number

/-- The integer nearest to `n / d`, of two equally near the even one. -/
def roundHalfEven (n d : Nat) : Nat :=
  let q := n / d
  let r := n % d
  if 2 * r < d then q
  else if d < 2 * r then q + 1
  else q + q % 2

theorem roundHalfEven_mul (q : Nat) {d : Nat} (hd : 0 < d) : roundHalfEven (q * d) d = q := by
  simp [roundHalfEven, Nat.mul_div_cancel _ hd, hd]

/-- The rounded quotient is one of the two neighbours. -/
theorem roundHalfEven_bounds (n d : Nat) :
    n / d ≤ roundHalfEven n d ∧ roundHalfEven n d ≤ n / d + 1 := by
  simp only [roundHalfEven]
  have := Nat.mod_lt (n / d) (by decide : 0 < 2)
  split
  · omega
  · split <;> omega

/-- A number in the 64-bit binary format, by its bits: sign, 11 bits of exponent, 52 of fraction. -/
structure Binary64 where
  bits : UInt64
deriving DecidableEq

namespace Binary64

def exponentBits : Nat := 11

def fractionBits : Nat := 52

/-- What the sign bit counts for. -/
def signWeight : Nat := 2 ^ (exponentBits + fractionBits)

def isNegative (x : Binary64) : Bool :=
  signWeight ≤ x.bits.toNat

def exponentField (x : Binary64) : Nat :=
  x.bits.toNat / 2 ^ fractionBits % 2 ^ exponentBits

def fractionField (x : Binary64) : Nat :=
  x.bits.toNat % 2 ^ fractionBits

def isFinite (x : Binary64) : Bool :=
  x.exponentField < 2047

def isNaN (x : Binary64) : Bool :=
  x.exponentField == 2047 && x.fractionField != 0

def isInfinite (x : Binary64) : Bool :=
  x.exponentField == 2047 && x.fractionField == 0

/-- The integer that the fraction and the hidden bit of a finite number spell. -/
def significand (x : Binary64) : Nat :=
  if x.exponentField = 0 then x.fractionField else 2 ^ fractionBits + x.fractionField

/-- The power of two that `significand` counts. -/
def scale (x : Binary64) : Int :=
  max x.exponentField 1 - 1075

def isZero (x : Binary64) : Bool :=
  x.exponentField == 0 && x.fractionField == 0

def infinityBits : Nat := 2047 * 2 ^ fractionBits

def withSign (negative : Bool) (magnitude : Nat) : Binary64 :=
  ⟨UInt64.ofNat (if negative then signWeight + magnitude else magnitude)⟩

def zero : Binary64 := ⟨0⟩

/-- The bits without the sign. -/
def magnitude (x : Binary64) : Nat :=
  x.bits.toNat % signWeight

def neg (x : Binary64) : Binary64 :=
  withSign (!x.isNegative) x.magnitude

/-- The magnitude `n · 2 ^ e`, written as a quotient of natural numbers. -/
def scaled (n : Nat) (e : Int) : Nat × Nat :=
  if 0 ≤ e then (n * 2 ^ e.toNat, 1) else (n, 2 ^ (-e).toNat)

/-- The integer `k` with `2 ^ k ≤ n / d < 2 ^ (k + 1)`, for positive `n` and `d`. -/
def floorLog2 (n d : Nat) : Int :=
  let k : Int := (Nat.log2 n : Int) - Nat.log2 d
  let atLeast := if 0 ≤ k then decide (d * 2 ^ k.toNat ≤ n) else decide (d ≤ n * 2 ^ (-k).toNat)
  if atLeast then k else k - 1

/-- The bits, without a sign, of the number nearest to `n / d` for a positive `d`. The unit in the
last place is `2 ^ u`; counted in units the rounded value is the significand, and adding the place of
`u` to the exponent field carries into it when the rounding reaches the next power of two. -/
def magnitudeBits (n d : Nat) : Nat :=
  if n = 0 then 0
  else
    let u := max (floorLog2 n d) (-1022) - 52
    let units := if 0 ≤ u then roundHalfEven n (d * 2 ^ u.toNat)
      else roundHalfEven (n * 2 ^ (-u).toNat) d
    min ((u + 1074).toNat * 2 ^ fractionBits + units) infinityBits

/-- The number nearest to `± n / d`. -/
def ofRatio (negative : Bool) (n d : Nat) : Binary64 :=
  withSign negative (magnitudeBits n d)

def ofNat (n : Nat) : Binary64 :=
  ofRatio false n 1

def ofInt (i : Int) : Binary64 :=
  ofRatio (decide (i < 0)) i.natAbs 1

/-- The finite magnitude of a number as a quotient. -/
def ratio (x : Binary64) : Nat × Nat :=
  scaled x.significand x.scale

/-- The first bit of the fraction. -/
def quietBit : Nat := 2 ^ (fractionBits - 1)

/-- What is left of an operation one of whose operands is not a number: the same bits, with the
first bit of the fraction set. -/
def quiet (x : Binary64) : Binary64 :=
  if x.fractionField < quietBit then withSign x.isNegative (x.magnitude + quietBit) else x

def infinity (negative : Bool) : Binary64 :=
  withSign negative infinityBits

/-- An invalid operation, such as the difference of two infinities. -/
def invalid : Binary64 :=
  withSign true (infinityBits + quietBit)

/-- The exact sum of two finite numbers in units of the smaller scale, and that scale. -/
def exactSum (x y : Binary64) : Int × Int :=
  let u := min x.scale y.scale
  let part (z : Binary64) : Int :=
    let m := z.significand * 2 ^ (z.scale - u).toNat
    if z.isNegative then -m else m
  (part x + part y, u)

/-- The sum, rounded once. A sum of zero is positive unless both addends are negative. -/
def add (x y : Binary64) : Binary64 :=
  if x.isNaN then x.quiet
  else if y.isNaN then y.quiet
  else if x.isInfinite then
    if y.isInfinite && x.isNegative != y.isNegative then invalid else x
  else if y.isInfinite then y
  else
    let (n, u) := exactSum x y
    if n = 0 then withSign (x.isNegative && y.isNegative) 0
    else
      let (num, den) := scaled n.natAbs u
      ofRatio (decide (n < 0)) num den

/-- The product of two finite numbers, rounded once. -/
def mulFinite (x y : Binary64) : Binary64 :=
  let (num, den) := scaled (x.significand * y.significand) (x.scale + y.scale)
  ofRatio (x.isNegative != y.isNegative) num den

/-- The quotient of a finite number by a finite number other than zero, rounded once. -/
def divFinite (x y : Binary64) : Binary64 :=
  let (a, b) := x.ratio
  let (c, d) := y.ratio
  ofRatio (x.isNegative != y.isNegative) (a * d) (b * c)

/-- Equality as numbers: the zeros are equal and what is not a number differs from all. -/
def numEq (x y : Binary64) : Bool :=
  !x.isNaN && !y.isNaN && (x == y || (x.isZero && y.isZero))

instance : Add Binary64 := ⟨add⟩

end Binary64

end TokenFaucet.Number
