import TokenFaucet.Number.Binary64

set_option autoImplicit false

attribute [local instance (2000)] instPowNat

namespace TokenFaucet.Number

/-- A decimal `digits · 10 ^ exponent`. -/
structure Decimal where
  digits : Nat
  exponent : Int
deriving DecidableEq, Repr

/-- The reals that round to a finite number, in quarters of its unit: the number is `4 m`, its
neighbours' midpoints are `lo` and `hi`, and the ends belong to it iff its significand is even. -/
structure RoundingInterval where
  lo : Nat
  value : Nat
  hi : Nat
  scale : Int
  closed : Bool

namespace Binary64

/-- Below a power of two the neighbour is half as far away, except at the lowest exponent. -/
def interval (x : Binary64) : RoundingInterval :=
  let m := x.significand
  let narrow := x.fractionField = 0 && 1 < x.exponentField
  { lo := 4 * m - (if narrow then 1 else 2)
    value := 4 * m
    hi := 4 * m + 2
    scale := x.scale - 2
    closed := m % 2 == 0 }

end Binary64

namespace ShortestDecimal

/-- Whether `c · 10 ^ e` lies in the interval. -/
def accepts (i : RoundingInterval) (c : Nat) (e : Int) : Bool :=
  let (num, den) := Binary64.scaled 1 i.scale
  let (c, ten) := if 0 ≤ e then (c * 10 ^ e.toNat, 1) else (c, 10 ^ (-e).toNat)
  -- `c / ten` against `end · num / den`
  let left := c * den
  let lo := i.lo * num * ten
  let hi := i.hi * num * ten
  if i.closed then lo ≤ left && left ≤ hi else lo < left && left < hi

/-- The number of decimal places before the point of `n / d`: the `k` with
`10 ^ (k - 1) ≤ n / d < 10 ^ k`, looked for upwards from a lower bound. -/
def placesFrom (n d : Nat) : Nat → Int → Int
  | 0, k => k
  | fuel + 1, k =>
    let below := if 0 ≤ k then decide (n < d * 10 ^ k.toNat) else decide (n * 10 ^ (-k).toNat < d)
    if below then k else placesFrom n d fuel (k + 1)

/-- The decimal places before the point of a positive `n / d`; `2 ^ l` has about `0.301 l`. -/
def places (n d : Nat) : Int :=
  let l := Binary64.floorLog2 n d
  placesFrom n d 4 (Int.fdiv (l * 1233) 4096 - 1)

/-- The two neighbours of the number on the grid `10 ^ e`, the nearer first. -/
def neighbours (i : RoundingInterval) (e : Int) : List Nat :=
  let (num, den) := Binary64.scaled i.value i.scale
  let (n, d) := if 0 ≤ e then (num, den * 10 ^ e.toNat) else (num * 10 ^ (-e).toNat, den)
  let q := n / d
  let r := n % d
  if r = 0 then [q]
  else if 2 * r < d then [q, q + 1]
  else if d < 2 * r then [q + 1, q]
  else [q + q % 2, q + 1 - q % 2]

/-- Looks on finer and finer grids for a neighbour in the interval. -/
def search (i : RoundingInterval) (top : Int) : Nat → Nat → Decimal
  | 0, _ => ⟨0, 0⟩
  | fuel + 1, count =>
    let e := top - count
    match (neighbours i e).find? fun c => accepts i c e with
    | some c => ⟨c, e⟩
    | none => search i top fuel (count + 1)

/-- Drops the zeros at the end of the digits. -/
def withoutZeros : Nat → Decimal → Decimal
  | 0, d => d
  | fuel + 1, d =>
    if d.digits % 10 = 0 ∧ d.digits ≠ 0 then withoutZeros fuel ⟨d.digits / 10, d.exponent + 1⟩
    else d

end ShortestDecimal

/-- The shortest decimal of the magnitude of a finite number; seventeen digits always suffice. -/
def Binary64.shortest (x : Binary64) : Decimal :=
  if x.isZero then ⟨0, 0⟩
  else
    let i := x.interval
    let (n, d) := x.ratio
    ShortestDecimal.withoutZeros 20 (ShortestDecimal.search i (ShortestDecimal.places n d) 18 1)

/-- How a number's digits are laid out: with the point at its place when the first digit counts
`10 ^ k` for `from ≤ k < below`, and with an exponent elsewhere. -/
structure DecimalLayout where
  plainFrom : Int
  plainBelow : Int
  signedExponent : Bool

namespace DecimalLayout

/-- The layout of numbers in JSON texts: plain from 0.00001 up to below 10 ^ 16, then `1e+16`. -/
def json : DecimalLayout := ⟨-5, 16, true⟩

/-- The layout of numbers in diagnostics: plain from 0.0001 up to below 10 ^ 16, then `1e16`. -/
def debug : DecimalLayout := ⟨-4, 16, false⟩

/-- Digits with the point at its place, and at least one digit after it. -/
def plain (digits : List Char) (exponent : Int) : List Char :=
  if 0 ≤ exponent then digits ++ List.replicate exponent.toNat '0' ++ ['.', '0']
  else
    let fraction := (-exponent).toNat
    if fraction < digits.length then
      digits.take (digits.length - fraction) ++ ['.'] ++ digits.drop (digits.length - fraction)
    else ['0', '.'] ++ List.replicate (fraction - digits.length) '0' ++ digits

/-- One digit, the others after the point, and the power of ten of the first. -/
def scientific (layout : DecimalLayout) (digits : List Char) (power : Int) : List Char :=
  let point := match digits with
    | d :: e :: rest => d :: '.' :: e :: rest
    | ds => ds
  let sign := if power < 0 then ['-'] else if layout.signedExponent then ['+'] else []
  point ++ ['e'] ++ sign ++ Nat.toDigits 10 power.natAbs

def characters (layout : DecimalLayout) (x : Binary64) : List Char :=
  let sign := if x.isNegative then ['-'] else []
  if x.isZero then sign ++ ['0', '.', '0']
  else
    let d := x.shortest
    let digits := Nat.toDigits 10 d.digits
    let power := digits.length + d.exponent - 1
    sign ++ if layout.plainFrom ≤ power ∧ power < layout.plainBelow then plain digits d.exponent
      else layout.scientific digits power

def text (layout : DecimalLayout) (x : Binary64) : String :=
  String.ofList (layout.characters x)

end DecimalLayout

/-- The text of any number in a diagnostic. -/
def Binary64.debug (x : Binary64) : String :=
  if x.isFinite then DecimalLayout.debug.text x
  else if x.isNaN then "NaN"
  else if x.isNegative then "-inf"
  else "inf"

end TokenFaucet.Number
