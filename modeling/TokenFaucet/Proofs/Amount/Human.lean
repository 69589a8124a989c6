import TokenFaucet.Proofs.Amount.Format
import TokenFaucet.Proofs.Number.NearestEven

set_option autoImplicit false

attribute [local instance (2000)] instPowNat

namespace TokenFaucet

namespace Number.Binary64

variable {n d n' d' : Nat}

/-- Equal quotients are rounded to the same number. -/
theorem ofRatio_congr (negative : Bool) (pos : 0 < d) (pos' : 0 < d') (same : n * d' = n' * d) :
    ofRatio negative n d = ofRatio negative n' d' :=
  congrArg (withSign negative)
    (Nat.le_antisymm (magnitudeBits_mono pos pos' same.le) (magnitudeBits_mono pos' pos same.ge))

end Number.Binary64

namespace MinorUnits

open Number (PlainDecimal Binary64)
open Number.Binary64

variable {a b : MinorUnits}

theorem ten_pow_pos (decimals : UInt8) : 0 < 10 ^ decimals.toNat :=
  Nat.pow_pos (by decide)

theorem toHuman_eq_nearest (a : MinorUnits) (decimals : UInt8) :
    a.toHuman decimals = (a.decimal decimals.toNat).nearest := by
  rw [toHuman, read?_format]

/-- The value of an amount is its rounded quotient. -/
theorem toHuman_eq_ofRatio (a : MinorUnits) (decimals : UInt8) :
    a.toHuman decimals = ofRatio false a.toNat (10 ^ decimals.toNat) := by
  have pos : 0 < (a.decimal decimals.toNat).denominator := Nat.pow_pos (by decide)
  have den : ((a.decimal decimals.toNat).denominator : ℚ) ≠ 0 := Nat.cast_ne_zero.2 pos.ne'
  have ten : (10 : ℚ) ^ decimals.toNat ≠ 0 := pow_ne_zero _ (by norm_num)
  have value := a.value_decimal decimals.toNat
  rw [PlainDecimal.value, div_eq_div_iff den ten] at value
  rw [toHuman_eq_nearest, PlainDecimal.nearest]
  exact ofRatio_congr false pos (ten_pow_pos decimals) (by exact_mod_cast value)

theorem isNegative_toHuman (a : MinorUnits) (decimals : UInt8) :
    (a.toHuman decimals).isNegative = false := by
  rw [toHuman_eq_ofRatio, isNegative_ofRatio]

section Bounds

/-- More than any amount in whole units. -/
def most : Binary64 := .ofNat (2 ^ width)

/-- Two to this power is more than ten to the power of any number of places. -/
def leastBits : Nat := 848

/-- Less than any amount in whole units, but for zero. -/
def least : Binary64 := .ofRatio false 1 (2 ^ leastBits)

theorem isFinite_most : most.isFinite = true := by decide +kernel

theorem isFinite_least : least.isFinite = true := by decide +kernel

theorem value_most : most.value = 2 ^ (256 : Int) := by
  have exact_ := @value_ofRatio_of_representable (2 ^ width) 1 false Nat.one_pos isFinite_most
    ⟨1, 256, by decide, by decide, by norm_num [width]⟩
  rw [most, ofNat, exact_]
  norm_num [width]

theorem one_div_two_pow (k : Nat) : ((1 : Nat) : ℚ) / (2 ^ k : Nat) = 2 ^ (-(k : Int)) := by
  rw [Nat.cast_one, Nat.cast_pow, Nat.cast_ofNat, one_div, ← zpow_natCast, ← zpow_neg]

theorem value_half_pow {k : Nat} (few : k ≤ 1074)
    (finite : (ofRatio false 1 (2 ^ k)).isFinite = true) :
    (ofRatio false 1 (2 ^ k)).value = 2 ^ (-(k : Int)) := by
  have representable : Representable (((1 : Nat) : ℚ) / (2 ^ k : Nat)) := by
    refine ⟨1, -k, by decide, by omega, ?_⟩
    rw [one_div_two_pow, Nat.cast_one, one_mul]
  rw [value_ofRatio_of_representable (Nat.two_pow_pos k) finite representable, one_div_two_pow]

theorem value_least : least.value = 2 ^ (-(leastBits : Int)) :=
  value_half_pow (by decide) isFinite_least

theorem neg_leastBits : -(leastBits : Int) = -848 := rfl

theorem quotient_le_most (a : MinorUnits) (decimals : UInt8) :
    (a.toNat : ℚ) / (10 ^ decimals.toNat : Nat) ≤ most.value := by
  have one : (1 : ℚ) ≤ (10 ^ decimals.toNat : Nat) := by exact_mod_cast ten_pow_pos decimals
  have bound : (a.toNat : ℚ) ≤ 2 ^ (256 : Int) := by exact_mod_cast a.toNat_lt.le
  rw [value_most]
  exact (div_le_self (Nat.cast_nonneg _) one).trans bound

theorem least_le_quotient (pos : 0 < a.toNat) (decimals : UInt8) :
    least.value ≤ (a.toNat : ℚ) / (10 ^ decimals.toNat : Nat) := by
  have places : decimals.toNat ≤ 255 := by
    have bound := decimals.toNat_lt
    omega
  have some_ : (1 : ℚ) ≤ a.toNat := by exact_mod_cast pos
  have few : 10 ^ decimals.toNat ≤ 2 ^ leastBits :=
    (Nat.pow_le_pow_right (by decide) places).trans (by decide +kernel)
  have few' : ((10 ^ decimals.toNat : Nat) : ℚ) ≤ 2 ^ leastBits := by exact_mod_cast few
  rw [value_least, zpow_neg, zpow_natCast,
    le_div_iff₀ (Nat.cast_pos.2 (ten_pow_pos decimals)), inv_mul_le_iff₀ (by positivity)]
  exact few'.trans (le_mul_of_one_le_right (by positivity) some_)

theorem isFinite_toHuman (a : MinorUnits) (decimals : UInt8) :
    (a.toHuman decimals).isFinite = true := by
  rw [toHuman_eq_ofRatio]
  exact isFinite_ofRatio false isFinite_most (ten_pow_pos decimals) (a.quotient_le_most decimals)

theorem value_toHuman_le (a : MinorUnits) (decimals : UInt8) :
    (a.toHuman decimals).value ≤ 2 ^ (256 : Int) := by
  rw [toHuman_eq_ofRatio, ← value_most]
  exact value_ofRatio_le false isFinite_most (ten_pow_pos decimals) (a.quotient_le_most decimals)

theorem le_value_toHuman (pos : 0 < a.toNat) (decimals : UInt8) :
    2 ^ (-848 : Int) ≤ (a.toHuman decimals).value := by
  rw [toHuman_eq_ofRatio, ← neg_leastBits, ← value_least]
  exact le_value_ofRatio false isFinite_least (ten_pow_pos decimals) (least_le_quotient pos decimals)

end Bounds

theorem toHuman_eq_zero_iff (a : MinorUnits) (decimals : UInt8) :
    a.toHuman decimals = .zero ↔ a.toNat = 0 := by
  constructor
  · intro same
    by_contra some_
    have bound := le_value_toHuman (Nat.pos_of_ne_zero some_) decimals
    rw [same] at bound
    exact absurd (bound.trans (value_zero false).le) (not_le.2 (two_zpow_pos _))
  · intro zero
    rw [toHuman_eq_ofRatio, zero]
    rfl

theorem toHuman_mono (le : a.le b = true) (decimals : UInt8) :
    (a.toHuman decimals).real ≤ (b.toHuman decimals).real := by
  have amounts : a.toNat ≤ b.toNat := of_decide_eq_true le
  rw [real_of_positive (isNegative_toHuman ..), real_of_positive (isNegative_toHuman ..),
    toHuman_eq_ofRatio, toHuman_eq_ofRatio]
  apply value_mono false false _ (magnitudeBits_lt ..)
  exact magnitudeBits_mono (ten_pow_pos decimals) (ten_pow_pos decimals)
    (Nat.mul_le_mul_right _ amounts)

theorem isNearest_toHuman (a : MinorUnits) (decimals : UInt8) :
    (a.toHuman decimals).IsNearest (a.toNat / 10 ^ decimals.toNat) := by
  have finite := a.isFinite_toHuman decimals
  rw [toHuman_eq_ofRatio] at finite ⊢
  have nearest := isNearest_ofRatio (ten_pow_pos decimals) finite
  rwa [Nat.cast_pow, Nat.cast_ofNat] at nearest

/-- The text of an amount is read as a number, and this is the one that is nearest to the amount in
whole units, ties to even. It is finite, it is zero only for the amount zero, and a greater amount has
no smaller one. -/
theorem toHuman_nearest (a : MinorUnits) (decimals : UInt8) :
    (∃ t : PlainDecimal, PlainDecimal.read? (a.format decimals).toList = some t ∧
      a.toHuman decimals = t.nearest) ∧
    (a.toHuman decimals).isFinite = true ∧ (a.toHuman decimals).isNegative = false ∧
    (∀ x : Binary64, x.isNegative = false →
      (x.IsNearest (a.toNat / 10 ^ decimals.toNat) ↔ x = a.toHuman decimals)) ∧
    (a.toHuman decimals = .zero ↔ a.toNat = 0) ∧
    ∀ b : MinorUnits, a.le b = true → (a.toHuman decimals).real ≤ (b.toHuman decimals).real := by
  refine ⟨⟨_, a.read?_format decimals, a.toHuman_eq_nearest decimals⟩, a.isFinite_toHuman decimals,
    a.isNegative_toHuman decimals, fun x positive => ⟨fun nearest => ?_, ?_⟩,
    a.toHuman_eq_zero_iff decimals, fun b le => toHuman_mono le decimals⟩
  · exact nearest.eq (a.isNearest_toHuman decimals) positive (a.isNegative_toHuman decimals)
  · rintro rfl
    exact a.isNearest_toHuman decimals

end MinorUnits

end TokenFaucet
