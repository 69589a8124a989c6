import TokenFaucet.Proofs.Number.SeventeenDigits

set_option autoImplicit false

attribute [local instance (2000)] instPowNat

namespace TokenFaucet.Number

namespace Binary64

variable {x y : Binary64} {n d : Nat} {negative : Bool}

theorem isNegative_ofRatio (negative : Bool) (n d : Nat) :
    (ofRatio negative n d).isNegative = negative :=
  isNegative_withSign (magnitudeBits_lt n d)

theorem magnitude_ofRatio (negative : Bool) (n d : Nat) :
    (ofRatio negative n d).magnitude = magnitudeBits n d :=
  magnitude_withSign (magnitudeBits_lt n d)

/-- The sign is no part of the magnitude. -/
theorem value_withSign_magnitude (negative : Bool) (x : Binary64) :
    (withSign negative x.magnitude).value = x.value := by
  have least := value_mono negative x.isNegative (Nat.le_refl x.magnitude) x.magnitude_lt
  have most := value_mono x.isNegative negative (Nat.le_refl x.magnitude) x.magnitude_lt
  rw [withSign_magnitude] at least most
  exact le_antisymm least most

theorem isFinite_withSign_magnitude (negative : Bool) (x : Binary64) :
    (withSign negative x.magnitude).isFinite = x.isFinite := by
  rw [Bool.eq_iff_iff, ← magnitude_lt_iff, ← magnitude_lt_iff, magnitude_withSign x.magnitude_lt]

theorem isZero_of_pos (pos : 0 < x.value) : x.isZero = false := by
  cases zero : x.isZero with
  | false => rfl
  | true =>
      rw [value_of_isZero zero] at pos
      exact absurd pos (lt_irrefl _)

theorem isFinite_ofNat_of_le {c c' : Nat} (le : c ≤ c') (finite : (ofNat c').isFinite = true) :
    (ofNat c).isFinite = true :=
  isFinite_ofRatio_iff.2 (Nat.lt_of_le_of_lt
    (magnitudeBits_mono Nat.one_pos Nat.one_pos (Nat.mul_le_mul_right 1 le))
    (isFinite_ofRatio_iff.1 finite))

theorem ofNat_within {c : Nat} (pos : 0 < c) (finite : (ofNat c).isFinite = true) :
    Within 1 (ofNat c).value c := by
  have near := ofRatio_within (n := c) Nat.one_pos finite
  rw [Nat.cast_one, div_one] at near
  apply near
  have least : (1 : ℚ) ≤ c := by exact_mod_cast pos
  exact (zpow_le_one_of_nonpos₀ (by norm_num) (by decide)).trans least

theorem ofNat_value {c : Nat} (finite : (ofNat c).isFinite = true) (few : Representable c) :
    (ofNat c).value = c := by
  have exact_ := @value_ofRatio_of_representable c 1 false Nat.one_pos finite
  rw [Nat.cast_one, div_one] at exact_
  exact exact_ few

theorem one_le_ofNat {c : Nat} (pos : 0 < c) : 1 ≤ (ofNat c).value := by
  have one := ofNat_value (c := 1) (by decide) ⟨1, 0, by decide, by decide, by norm_num⟩
  have mono := @ofNat_value_mono 1 c pos
  rwa [one, Nat.cast_one] at mono

theorem isNegative_divFinite (positive : x.isNegative = false) (positive' : y.isNegative = false) :
    (x.divFinite y).isNegative = false := by
  have sign : (x.divFinite y).isNegative = (x.isNegative != y.isNegative) := isNegative_ofRatio ..
  rw [sign, positive, positive']
  rfl

theorem isNegative_mulFinite (positive : x.isNegative = false) (positive' : y.isNegative = false) :
    (x.mulFinite y).isNegative = false := by
  have sign : (x.mulFinite y).isNegative = (x.isNegative != y.isNegative) := isNegative_ofRatio ..
  rw [sign, positive, positive']
  rfl

/-- What is divided by one or more stays finite. -/
theorem isFinite_divFinite (finite : x.isFinite = true) (least : 1 ≤ y.value) :
    (x.divFinite y).isFinite = true := by
  have nonzero := isZero_of_pos (lt_of_lt_of_le one_pos least)
  have quotient := div_le_self x.value_nonneg least
  rw [← quotient_value] at quotient
  exact isFinite_ofRatio _ finite (quotient_pos x nonzero) quotient

end Binary64

namespace DecimalReading

open Binary64

theorem powerOfTen_isFinite {n : Nat} (le : n ≤ largestPower) : (powerOfTen n).isFinite = true :=
  isFinite_ofNat_of_le (Nat.pow_le_pow_right (by decide) le)
    (show (ofNat (10 ^ largestPower)).isFinite = true by decide +kernel)

theorem one_le_powerOfTen (n : Nat) : 1 ≤ (powerOfTen n).value :=
  one_le_ofNat (Nat.pow_pos (by decide))

theorem powerOfTen_isZero (n : Nat) : (powerOfTen n).isZero = false :=
  isZero_of_pos (lt_of_lt_of_le one_pos (one_le_powerOfTen n))

theorem powerOfTen_within {n : Nat} (le : n ≤ largestPower) :
    Within 1 (powerOfTen n).value (10 ^ n) := by
  have near := ofNat_within (Nat.pow_pos (by decide)) (powerOfTen_isFinite le)
  push_cast at near
  exact near

theorem ofNat_isFinite {c : Nat} (word : c < UInt64.size) : (ofNat c).isFinite = true :=
  isFinite_ofNat_of_le word.le (by decide +kernel)

/-- A quotient by a power of ten is finite. -/
theorem divideByPower_isFinite {x : Binary64} (finite : x.isFinite = true)
    (positive : x.isNegative = false) (n : Nat) :
    (divideByPower x n).isFinite = true ∧ (divideByPower x n).isNegative = false := by
  induction x, n using divideByPower.induct with
  | case1 x n le =>
      rw [divideByPower, if_pos le]
      exact ⟨isFinite_divFinite finite (one_le_powerOfTen n),
        isNegative_divFinite positive (isNegative_ofRatio ..)⟩
  | case2 x n more zero =>
      rw [divideByPower, if_neg more, if_pos zero]
      exact ⟨finite, positive⟩
  | case3 x n more nonzero ih =>
      rw [divideByPower, if_neg more, if_neg nonzero]
      exact ih (isFinite_divFinite finite (one_le_powerOfTen _))
        (isNegative_divFinite positive (isNegative_ofRatio ..))

/-- The magnitude that is read. -/
inductive Reads (c : Nat) (e : Int) (z : Binary64) : Prop where
  | divided (sign : e < 0) (same : z = divideByPower (ofNat c) (-e).toNat)
  | zero (sign : 0 ≤ e) (zero : (ofNat c).isZero = true) (same : z = ofNat c)
  | multiplied (sign : 0 ≤ e) (le : e.toNat ≤ largestPower) (finite : z.isFinite = true)
      (same : z = (ofNat c).mulFinite (powerOfTen e.toNat))

theorem ofParts_cases {negative : Bool} {c : Nat} {e : Int} {y : Binary64} (word : c < UInt64.size)
    (read : ofParts negative c e = some y) :
    ∃ z, Reads c e z ∧ z.isFinite = true ∧ z.isNegative = false ∧ y = withSign negative z.magnitude := by
  have signed (z : Binary64) (positive : z.isNegative = false) :
      (if negative then z.neg else z) = withSign negative z.magnitude := by
    cases negative with
    | false =>
        rw [if_neg (by decide), ← positive]
        exact (withSign_magnitude z).symm
    | true =>
        rw [if_pos rfl, neg, positive]
        rfl
  have finite := ofNat_isFinite word
  have positive : (ofNat c).isNegative = false := isNegative_ofRatio ..
  unfold ofParts at read
  dsimp only at read
  rw [Option.map_eq_some_iff] at read
  obtain ⟨z, magnitude, rfl⟩ := read
  suffices reads : Reads c e z ∧ z.isFinite = true ∧ z.isNegative = false from
    ⟨z, reads.1, reads.2.1, reads.2.2, signed z reads.2.2⟩
  split at magnitude
  · next sign =>
      cases magnitude
      exact ⟨.divided sign rfl, divideByPower_isFinite finite positive _⟩
  · next sign =>
      split at magnitude
      · next zero =>
          cases magnitude
          exact ⟨.zero (Int.not_lt.1 sign) zero rfl, finite, positive⟩
      · split at magnitude
        · cases magnitude
        · next le =>
            split at magnitude
            · next bounded =>
                cases magnitude
                exact ⟨.multiplied (Int.not_lt.1 sign) (Nat.le_of_not_lt le) bounded rfl, bounded,
                  isNegative_mulFinite positive (isNegative_ofRatio ..)⟩
            · cases magnitude

section Parts

variable {negative : Bool} {c : Nat} {e : Int} {y : Binary64}

/-- Whatever is read is finite and has the sign. -/
theorem ofParts_isFinite (word : c < UInt64.size) (read : ofParts negative c e = some y) :
    y.isFinite = true ∧ y.isNegative = negative := by
  obtain ⟨z, -, finite, -, rfl⟩ := ofParts_cases word read
  exact ⟨by rw [isFinite_withSign_magnitude, finite], isNegative_withSign z.magnitude_lt⟩

/-- The significand, the power and the result are each rounded. -/
theorem ofParts_within (pos : 0 < c) (word : c < UInt64.size) (lowest : -(largestPower : Int) ≤ e)
    (normal : 2 ^ (-1000 : Int) ≤ (c : ℚ) * 10 ^ e) (read : ofParts negative c e = some y) :
    Within 3 y.value (c * 10 ^ e) := by
  obtain ⟨z, reads, finite, -, rfl⟩ := ofParts_cases word read
  rw [value_withSign_magnitude]
  have first := ofNat_within pos (ofNat_isFinite word)
  have nonneg := (ofNat c).value_nonneg
  have nonzero := isZero_of_pos (lt_of_lt_of_le one_pos (one_le_ofNat pos))
  have gap : (2 : ℚ) ^ (-1022 : Int) ≤ 2 ^ (-1000 : Int) * kept ^ 2 := by
    rw [show (-1022 : Int) = -1000 + -22 by decide, zpow_add₀ (by norm_num)]
    exact mul_le_mul_of_nonneg_left (by norm_num [kept]) (two_zpow_pos _).le
  cases reads with
  | divided sign same =>
      obtain ⟨k, power⟩ := Int.eq_ofNat_of_zero_le (show 0 ≤ -e by omega)
      have exponent : e = -(k : Int) := by omega
      have small : k ≤ largestPower := by omega
      have steps : z = (ofNat c).divFinite (powerOfTen k) := by
        rw [same, power, Int.toNat_natCast, divideByPower, if_pos small]
      have quotient := first.div (powerOfTen_within small) nonneg
        (lt_of_lt_of_le one_pos (one_le_powerOfTen k)) (by positivity)
      have decimal : (c : ℚ) * 10 ^ e = c / 10 ^ k := by
        rw [exponent, zpow_neg, zpow_natCast, div_eq_mul_inv]
      rw [decimal] at normal ⊢
      rw [steps] at finite ⊢
      have least := (gap.trans (mul_le_mul_of_nonneg_right normal (kept_pow_pos 2).le)).trans quotient.1
      exact (divFinite_within (powerOfTen_isZero k) finite least).trans quotient
  | zero sign zero same =>
      rw [nonzero] at zero
      cases zero
  | multiplied sign le bounded same =>
      obtain ⟨k, rfl⟩ := Int.eq_ofNat_of_zero_le sign
      rw [Int.toNat_natCast] at le same
      have product := first.mul (powerOfTen_within le) nonneg (powerOfTen k).value_nonneg
      rw [zpow_natCast] at normal ⊢
      rw [same] at finite ⊢
      have least := (gap.trans (mul_le_mul_of_nonneg_right normal (kept_pow_pos 2).le)).trans product.1
      exact (mulFinite_within finite least).trans product

/-- The powers of ten that are numbers. -/
theorem powerOfTen_value {n : Nat} (le : n ≤ 22) : (powerOfTen n).value = 10 ^ n := by
  have finite := powerOfTen_isFinite (le.trans (show 22 ≤ largestPower by decide))
  have few : Representable ((10 ^ n : Nat) : ℚ) := by
    refine ⟨5 ^ n, n, ?_, by omega, ?_⟩
    · exact (Nat.pow_le_pow_right (by decide) le).trans_lt (by decide)
    · rw [zpow_natCast]
      push_cast
      rw [← mul_pow]
      norm_num
  have exact_ := ofNat_value finite few
  push_cast at exact_
  exact exact_

/-- A decimal whose digits are a number and whose power of ten is one is read as the number that it
rounds to. -/
theorem eq_of_ofParts {x : Binary64} (finite : x.isFinite = true) (nonzero : x.isZero = false)
    (inside : x.interval.Contains (c * 10 ^ e)) (word : c < UInt64.size) (few : Representable c)
    (small : e.natAbs ≤ 22) (read : ofParts x.isNegative c e = some y) : y = x := by
  obtain ⟨z, reads, -, -, rfl⟩ := ofParts_cases word read
  have whole := ofNat_value (ofNat_isFinite word) few
  have pos : 0 < c := by
    have positive := pos_of_contains nonzero inside
    rw [mul_pos_iff_of_pos_right (ten_zpow_pos e), Nat.cast_pos] at positive
    exact positive
  have some_ := isZero_of_pos (lt_of_lt_of_le one_pos (one_le_ofNat pos))
  suffices same : z.magnitude = x.magnitude by rw [same, withSign_magnitude]
  cases reads with
  | divided sign same =>
      obtain ⟨k, power⟩ := Int.eq_ofNat_of_zero_le (show 0 ≤ -e by omega)
      have exponent : e = -(k : Int) := by omega
      have bound : k ≤ largestPower := (show k ≤ 22 by omega).trans (by decide)
      rw [power, Int.toNat_natCast, divideByPower, if_pos bound] at same
      have quotient := quotient_value (ofNat c) (powerOfTen k)
      rw [whole, powerOfTen_value (by omega), div_eq_mul_inv (c : ℚ), ← zpow_natCast, ← zpow_neg,
        ← exponent] at quotient
      rw [← quotient] at inside
      rw [same]
      refine (magnitude_ofRatio ..).trans (magnitudeBits_eq_magnitude finite nonzero ?_ ?_ inside)
      · exact Nat.mul_pos (scaled_pos (significand_pos some_) _).1 (powerOfTen k).ratio_pos
      · exact quotient_pos _ (powerOfTen_isZero k)
  | zero sign zero same =>
      rw [some_] at zero
      cases zero
  | multiplied sign le bounded same =>
      obtain ⟨k, rfl⟩ := Int.eq_ofNat_of_zero_le sign
      rw [Int.toNat_natCast] at same
      have product := product_value (ofNat c) (powerOfTen k)
      rw [whole, powerOfTen_value (by omega), ← zpow_natCast] at product
      rw [← product] at inside
      rw [same]
      refine (magnitude_ofRatio ..).trans (magnitudeBits_eq_magnitude finite nonzero ?_ ?_ inside)
      · exact (scaled_pos (Nat.mul_pos (significand_pos some_)
          (significand_pos (powerOfTen_isZero k))) _).1
      · exact scaled_den_pos ..

end Parts

end DecimalReading

end TokenFaucet.Number
