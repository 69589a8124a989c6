import TokenFaucet.Proofs.Number.RoundTrip

set_option autoImplicit false

attribute [local instance (2000)] instPowNat

/-!
Magnitudes that are equal up to a number of roundings. A rounding loses at most one part in `2 ^ 53`
of a magnitude that is not too small; the roundings of the operands of a product, of a quotient and of
a sum add up.
-/

namespace TokenFaucet.Number

/-- What a rounding leaves of a magnitude at least. -/
def kept : ℚ := 1 - 1 / 2 ^ 53

theorem kept_pos : 0 < kept := by
  norm_num [kept]

theorem kept_le_one : kept ≤ 1 := by
  norm_num [kept]

theorem kept_pow_pos (k : Nat) : 0 < kept ^ k := pow_pos kept_pos k

theorem kept_pow_le_one (k : Nat) : kept ^ k ≤ 1 := pow_le_one₀ kept_pos.le kept_le_one

/-- Equal up to `k` roundings. -/
def Within (k : Nat) (a b : ℚ) : Prop :=
  b * kept ^ k ≤ a ∧ a * kept ^ k ≤ b

namespace Within

variable {j k : Nat} {a b c a' b' t : ℚ}

theorem refl (nonneg : 0 ≤ a) (k : Nat) : Within k a a :=
  ⟨mul_le_of_le_one_right nonneg (kept_pow_le_one k), mul_le_of_le_one_right nonneg (kept_pow_le_one k)⟩

theorem symm (near : Within k a b) : Within k b a :=
  ⟨near.2, near.1⟩

theorem trans (first : Within j a b) (second : Within k b c) : Within (j + k) a c := by
  have left := kept_pow_pos j
  have right := kept_pow_pos k
  constructor
  · calc c * kept ^ (j + k) = c * kept ^ k * kept ^ j := by rw [pow_add]; ring
      _ ≤ b * kept ^ j := mul_le_mul_of_nonneg_right second.1 left.le
      _ ≤ a := first.1
  · calc a * kept ^ (j + k) = a * kept ^ j * kept ^ k := by rw [pow_add]; ring
      _ ≤ b * kept ^ k := mul_le_mul_of_nonneg_right first.2 right.le
      _ ≤ c := second.2

theorem nonneg_iff (near : Within k a b) : 0 ≤ a ↔ 0 ≤ b := by
  have power := kept_pow_pos k
  constructor
  · exact fun nonneg => (mul_nonneg nonneg power.le).trans near.2
  · exact fun nonneg => (mul_nonneg nonneg power.le).trans near.1

theorem mono (near : Within j a b) (nonneg : 0 ≤ a) (le : j ≤ k) : Within k a b := by
  obtain ⟨i, rfl⟩ := Nat.exists_eq_add_of_le le
  rw [Nat.add_comm]
  exact (refl nonneg i).trans near

/-- A common summand brings sums nearer. -/
theorem add_right (near : Within k a b) (nonneg : 0 ≤ t) : Within k (a + t) (b + t) := by
  have less := mul_le_of_le_one_right nonneg (kept_pow_le_one k)
  constructor
  · rw [add_mul]
    exact add_le_add near.1 less
  · rw [add_mul]
    exact add_le_add near.2 less

theorem mul (first : Within j a b) (second : Within k a' b') (nonneg : 0 ≤ a) (nonneg' : 0 ≤ a') :
    Within (j + k) (a * a') (b * b') := by
  have left := (kept_pow_pos j).le
  have right := (kept_pow_pos k).le
  have bound := first.nonneg_iff.1 nonneg
  have bound' := second.nonneg_iff.1 nonneg'
  constructor
  · calc b * b' * kept ^ (j + k) = b * kept ^ j * (b' * kept ^ k) := by rw [pow_add]; ring
      _ ≤ a * a' := mul_le_mul first.1 second.1 (mul_nonneg bound' right) nonneg
  · calc a * a' * kept ^ (j + k) = a * kept ^ j * (a' * kept ^ k) := by rw [pow_add]; ring
      _ ≤ b * b' := mul_le_mul first.2 second.2 (mul_nonneg nonneg' right) bound

theorem inv (near : Within k a b) (pos : 0 < a) (pos' : 0 < b) : Within k a⁻¹ b⁻¹ := by
  constructor
  · rw [inv_mul_le_iff₀ pos', le_mul_inv_iff₀ pos, mul_comm]
    exact near.2
  · rw [inv_mul_le_iff₀ pos, le_mul_inv_iff₀ pos', mul_comm]
    exact near.1

theorem div (first : Within j a b) (second : Within k a' b') (nonneg : 0 ≤ a) (pos : 0 < a')
    (pos' : 0 < b') : Within (j + k) (a / a') (b / b') := by
  rw [div_eq_mul_inv, div_eq_mul_inv]
  exact first.mul (second.inv pos pos') nonneg (inv_pos.2 pos).le

/-- One rounding is an error of one part in `2 ^ 53`. -/
theorem of_error (nonneg : 0 ≤ b) (error : |a - b| ≤ b / 2 ^ 53) : Within 1 a b := by
  obtain ⟨low, high⟩ := abs_le.1 error
  rw [Within, pow_one, kept]
  constructor
  · linarith
  · have less : a ≤ b * (1 + 1 / 2 ^ 53) := by linarith
    have scaled_ := mul_le_mul_of_nonneg_right less kept_pos.le
    rw [kept] at scaled_
    refine scaled_.trans ?_
    rw [mul_assoc]
    apply mul_le_of_le_one_right nonneg
    norm_num

end Within

namespace Binary64

variable {n d : Nat} {negative : Bool} {x y : Binary64}

/-- A rounded quotient that is not too small. -/
theorem ofRatio_within (pos : 0 < d) (finite : (ofRatio negative n d).isFinite = true)
    (normal : 2 ^ (-1022 : Int) ≤ (n : ℚ) / d) : Within 1 (ofRatio negative n d).value (n / d) := by
  have some_ : 0 < n := by
    apply Nat.pos_of_ne_zero
    rintro rfl
    rw [Nat.cast_zero, zero_div] at normal
    exact absurd (two_zpow_pos (-1022)) (not_lt.2 normal)
  have bounds := floorLog2_spec some_ pos
  have exponent := (zpow_lt_zpow_iff_right₀ (show (1 : ℚ) < 2 by norm_num)).1
    (lt_of_le_of_lt normal bounds.2)
  have place : unit n d = floorLog2 n d - 52 := by
    unfold unit
    omega
  have error := ofRatio_error pos finite
  have half : (2 : ℚ) ^ unit n d / 2 = 2 ^ floorLog2 n d / 2 ^ 53 := by
    rw [place, zpow_sub₀ (by norm_num)]
    norm_num
    ring
  rw [half] at error
  refine .of_error (div_nonneg (Nat.cast_nonneg _) (Nat.cast_nonneg _)) (error.trans ?_)
  exact div_le_div_of_nonneg_right bounds.1 (by norm_num)

/-- The exact quotient that a quotient is rounded from. -/
theorem quotient_value (x y : Binary64) :
    ((x.ratio.1 * y.ratio.2 : Nat) : ℚ) / (x.ratio.2 * y.ratio.1 : Nat) = x.value / y.value := by
  rw [← ratio_value, ← ratio_value, div_div_div_eq]
  push_cast
  rfl

theorem quotient_pos (x : Binary64) (nonzero : y.isZero = false) : 0 < x.ratio.2 * y.ratio.1 :=
  Nat.mul_pos x.ratio_pos (scaled_pos (significand_pos nonzero) _).1

theorem mulFinite_within (finite : (x.mulFinite y).isFinite = true)
    (normal : 2 ^ (-1022 : Int) ≤ x.value * y.value) :
    Within 1 (x.mulFinite y).value (x.value * y.value) := by
  rw [← product_value] at normal ⊢
  exact ofRatio_within (scaled_den_pos ..) finite normal

theorem divFinite_within (nonzero : y.isZero = false) (finite : (x.divFinite y).isFinite = true)
    (normal : 2 ^ (-1022 : Int) ≤ x.value / y.value) :
    Within 1 (x.divFinite y).value (x.value / y.value) := by
  rw [← quotient_value] at normal ⊢
  exact ofRatio_within (quotient_pos x nonzero) finite normal

theorem isNaN_of_isFinite (finite : x.isFinite = true) : x.isNaN = false := by
  unfold isFinite at finite
  unfold isNaN
  rw [decide_eq_true_eq] at finite
  rw [beq_false_of_ne (Nat.ne_of_lt finite), Bool.false_and]

theorem isInfinite_of_isFinite (finite : x.isFinite = true) : x.isInfinite = false := by
  unfold isFinite at finite
  unfold isInfinite
  rw [decide_eq_true_eq] at finite
  rw [beq_false_of_ne (Nat.ne_of_lt finite), Bool.false_and]

/-- A sum of numbers that are not negative is the rounded sum of their values. -/
theorem add_of_nonneg (finite : x.isFinite = true) (finite' : y.isFinite = true)
    (positive : x.isNegative = false) (positive' : y.isNegative = false) :
    ∃ n d : Nat, 0 < d ∧ x.add y = ofRatio false n d ∧ (n : ℚ) / d = x.value + y.value := by
  have part (z : Binary64) {u : Int} (le : u ≤ z.scale) :
      ((z.significand * 2 ^ (z.scale - u).toNat : Nat) : ℚ) * 2 ^ u = z.value := by
    obtain ⟨k, same⟩ := Int.eq_ofNat_of_zero_le (Int.sub_nonneg_of_le le)
    rw [same, Int.toNat_natCast, value, show z.scale = k + u by omega, zpow_add₀ (by norm_num),
      zpow_natCast]
    push_cast
    ring
  have sum := congrArg₂ (· + ·) (part x (Int.min_le_left x.scale y.scale))
    (part y (Int.min_le_right x.scale y.scale))
  simp only [add, isNaN_of_isFinite finite, isNaN_of_isFinite finite', isInfinite_of_isFinite finite,
    isInfinite_of_isFinite finite', exactSum, positive, positive', if_neg (by decide : ¬ false = true)]
  generalize x.significand * 2 ^ (x.scale - min x.scale y.scale).toNat = a at sum ⊢
  generalize y.significand * 2 ^ (y.scale - min x.scale y.scale).toNat = b at sum ⊢
  rw [← add_mul, ← Nat.cast_add, ← scaled_value] at sum
  split
  · next none =>
      have nothing : a + b = 0 := by omega
      refine ⟨0, 1, Nat.one_pos, rfl, ?_⟩
      rw [← sum, nothing, scaled_value, Nat.cast_zero, zero_mul, zero_div]
  · have sign : decide ((a : Int) + b < 0) = false := decide_eq_false (by omega)
    have count : ((a : Int) + b).natAbs = a + b := by omega
    rw [sign, count]
    exact ⟨_, _, scaled_den_pos .., rfl, sum⟩

end Binary64

end TokenFaucet.Number
