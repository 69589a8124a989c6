import Mathlib.Tactic.Ring
import TokenFaucet.Number.DecimalReading
import TokenFaucet.Proofs.Number.Rounding
import TokenFaucet.Proofs.Number.Shortest

set_option autoImplicit false

attribute [local instance (2000)] instPowNat

namespace TokenFaucet.Number

namespace Binary64

/-- The magnitude of a finite number. -/
def value (x : Binary64) : ℚ :=
  x.significand * 2 ^ x.scale

section Fields

variable {m : Nat}

theorem toNat_withSign (negative : Bool) (small : m < signWeight) :
    (withSign negative m).bits.toNat = if negative then signWeight + m else m := by
  have weight : signWeight + signWeight = UInt64.size := rfl
  unfold withSign
  dsimp only
  rw [UInt64.toNat_ofNat_of_lt']
  generalize signWeight = w at small weight ⊢
  generalize UInt64.size = size at weight ⊢
  split <;> omega

theorem exponentField_withSign (negative : Bool) (small : m < signWeight) :
    (withSign negative m).exponentField = m / 2 ^ fractionBits := by
  have weight : signWeight = 2 ^ exponentBits * 2 ^ fractionBits := rfl
  have pos : 0 < 2 ^ fractionBits := Nat.pow_pos (by decide)
  have field : m / 2 ^ fractionBits < 2 ^ exponentBits := by
    rw [Nat.div_lt_iff_lt_mul pos, ← weight]
    exact small
  unfold exponentField
  rw [toNat_withSign negative small]
  cases negative with
  | false => exact Nat.mod_eq_of_lt field
  | true =>
      rw [if_pos rfl, weight, Nat.add_comm, Nat.add_mul_div_right _ _ pos, Nat.add_mod_right]
      exact Nat.mod_eq_of_lt field

theorem fractionField_withSign (negative : Bool) (small : m < signWeight) :
    (withSign negative m).fractionField = m % 2 ^ fractionBits := by
  have weight : signWeight = 2 ^ exponentBits * 2 ^ fractionBits := rfl
  unfold fractionField
  rw [toNat_withSign negative small]
  cases negative with
  | false => rfl
  | true => rw [if_pos rfl, weight, Nat.add_comm, Nat.add_mul_mod_self_right]

theorem magnitudeBits_le (n d : Nat) : magnitudeBits n d ≤ infinityBits := by
  unfold magnitudeBits
  split
  · exact Nat.zero_le _
  · exact Nat.min_le_right ..

theorem magnitudeBits_lt (n d : Nat) : magnitudeBits n d < signWeight :=
  Nat.lt_of_le_of_lt (magnitudeBits_le n d) (by decide)

theorem isFinite_ofRatio_iff {negative : Bool} {n d : Nat} :
    (ofRatio negative n d).isFinite = true ↔ magnitudeBits n d < infinityBits := by
  unfold isFinite ofRatio
  rw [exponentField_withSign negative (magnitudeBits_lt n d), decide_eq_true_eq,
    Nat.div_lt_iff_lt_mul (Nat.pow_pos (by decide))]
  rfl

/-- Numbers are in the order of their bits. -/
theorem value_mono {m' : Nat} (negative negative' : Bool) (le : m ≤ m') (small : m' < signWeight) :
    (withSign negative m).value ≤ (withSign negative' m').value := by
  have small' : m < signWeight := Nat.lt_of_le_of_lt le small
  have two : (2 : ℚ) ≠ 0 := by norm_num
  have width : 2 ^ fractionBits = 2 ^ 52 := rfl
  have fraction := Nat.mod_lt m (show 0 < 2 ^ fractionBits from Nat.pow_pos (by decide))
  have fields : m / 2 ^ fractionBits ≤ m' / 2 ^ fractionBits := Nat.div_le_div_right le
  have split := Nat.div_add_mod m (2 ^ fractionBits)
  have split' := Nat.div_add_mod m' (2 ^ fractionBits)
  unfold value significand scale
  rw [exponentField_withSign negative small', exponentField_withSign negative' small,
    fractionField_withSign negative small', fractionField_withSign negative' small]
  rw [width] at *
  generalize m / 2 ^ 52 = f at *
  generalize m' / 2 ^ 52 = f' at *
  generalize m % 2 ^ 52 = r at *
  generalize m' % 2 ^ 52 = r' at *
  generalize low : (if f = 0 then r else 2 ^ 52 + r) = s
  generalize high : (if f' = 0 then r' else 2 ^ 52 + r') = s'
  by_cases same : max f 1 = max f' 1
  · rw [same]
    have significands : s ≤ s' := by
      rw [← low, ← high]
      split <;> split <;> omega
    exact mul_le_mul_of_nonneg_right (Nat.cast_le.2 significands) (two_zpow_pos _).le
  · have most : s ≤ 2 ^ 53 := by
      rw [← low]
      split <;> omega
    have least : 2 ^ 52 ≤ s' := by
      rw [← high, if_neg (by omega)]
      omega
    calc (s : ℚ) * 2 ^ (((max f 1 : Nat) : Int) - 1075)
        ≤ ((2 ^ 53 : Nat) : ℚ) * 2 ^ (((max f 1 : Nat) : Int) - 1075) :=
          mul_le_mul_of_nonneg_right (Nat.cast_le.2 most) (two_zpow_pos _).le
      _ = ((2 ^ 52 : Nat) : ℚ) * 2 ^ (((max f 1 : Nat) : Int) - 1075 + 1) := by
          rw [zpow_add_one₀ two]
          push_cast
          ring
      _ ≤ ((2 ^ 52 : Nat) : ℚ) * 2 ^ (((max f' 1 : Nat) : Int) - 1075) := by
          apply mul_le_mul_of_nonneg_left _ (Nat.cast_nonneg _)
          apply zpow_le_zpow_right₀ (by norm_num)
          omega
      _ ≤ s' * 2 ^ (((max f' 1 : Nat) : Int) - 1075) :=
          mul_le_mul_of_nonneg_right (Nat.cast_le.2 least) (two_zpow_pos _).le

end Fields

theorem ofNat_value_mono {c c' : Nat} (le : c ≤ c') : (ofNat c).value ≤ (ofNat c').value :=
  value_mono false false
    (magnitudeBits_mono Nat.one_pos Nat.one_pos (Nat.mul_le_mul_right 1 le)) (magnitudeBits_lt c' 1)

theorem value_nonneg (x : Binary64) : 0 ≤ x.value :=
  mul_nonneg (Nat.cast_nonneg _) (two_zpow_pos _).le

/-- The exact product that a product is rounded from. -/
theorem product_value (x y : Binary64) :
    (((scaled (x.significand * y.significand) (x.scale + y.scale)).1 : Nat) : ℚ) /
      (scaled (x.significand * y.significand) (x.scale + y.scale)).2 = x.value * y.value := by
  rw [scaled_value, value, value, zpow_add₀ (by norm_num)]
  push_cast
  ring

/-- A product of smaller factors is finite too. -/
theorem isFinite_mulFinite_of_le {x x' y y' : Binary64} (le : x.value ≤ x'.value)
    (le' : y.value ≤ y'.value) (finite : (x'.mulFinite y').isFinite = true) :
    (x.mulFinite y).isFinite = true := by
  have den (n : Nat) (e : Int) : 0 < (scaled n e).2 := by
    unfold scaled
    split
    · exact Nat.one_pos
    · exact Nat.pow_pos (by decide)
  unfold mulFinite at finite ⊢
  dsimp only at finite ⊢
  rw [isFinite_ofRatio_iff] at finite ⊢
  apply Nat.lt_of_le_of_lt _ finite
  apply magnitudeBits_mono (den ..) (den ..)
  have quotients := mul_le_mul le le' y.value_nonneg x'.value_nonneg
  rw [← product_value, ← product_value,
    div_le_div_iff₀ (Nat.cast_pos.2 (den ..)) (Nat.cast_pos.2 (den ..))] at quotients
  exact_mod_cast quotients

end Binary64

namespace DecimalReading

/-- The end of the reals that round to a number below the largest finite number. -/
def largest : Nat := (2 ^ 55 - 6) * 2 ^ 969

/-- The largest power of ten that any word can be multiplied by. -/
def wordPower : Nat := 288

/-- The greatest significands that are read with the powers of ten from that one on. -/
theorem isFinite_greatest : ∀ k ≤ largestPower - wordPower,
    ((Binary64.ofNat (min (largest / 10 ^ (wordPower + k)) (UInt64.size - 1))).mulFinite
      (powerOfTen (wordPower + k))).isFinite = true := by
  decide +kernel

/-- A word times a power of ten is finite unless it is beyond the largest number. -/
theorem isFinite_of_le_largest {c e : Nat} (word : c < UInt64.size) (power : e ≤ largestPower)
    (le : c * 10 ^ e ≤ largest) : ((Binary64.ofNat c).mulFinite (powerOfTen e)).isFinite = true := by
  have greatest {k : Nat} (fits : c ≤ largest / 10 ^ (wordPower + k)) :
      c ≤ min (largest / 10 ^ (wordPower + k)) (UInt64.size - 1) := by
    apply Nat.le_min.2 ⟨fits, ?_⟩
    omega
  have width : wordPower ≤ largestPower := by decide
  obtain below | above := Nat.lt_or_ge e wordPower
  · have every : UInt64.size - 1 ≤ largest / 10 ^ (wordPower + 0) := by decide +kernel
    have fits : c ≤ largest / 10 ^ (wordPower + 0) := Nat.le_trans (by omega) every
    have powers : 10 ^ e ≤ 10 ^ (wordPower + 0) :=
      Nat.pow_le_pow_right (by decide) (Nat.le_of_lt below)
    exact Binary64.isFinite_mulFinite_of_le (Binary64.ofNat_value_mono (greatest fits))
      (Binary64.ofNat_value_mono powers) (isFinite_greatest 0 (Nat.zero_le _))
  · obtain ⟨k, rfl⟩ := Nat.exists_eq_add_of_le above
    have fits : c ≤ largest / 10 ^ (wordPower + k) :=
      (Nat.le_div_iff_mul_le (Nat.pow_pos (by decide))).2 le
    exact Binary64.isFinite_mulFinite_of_le (Binary64.ofNat_value_mono (greatest fits)) le_rfl
      (isFinite_greatest k (by omega))

theorem le_largestPower {c e : Nat} (pos : 0 < c) (le : c * 10 ^ e ≤ largest) :
    e ≤ largestPower := by
  by_contra more
  have powers : 10 ^ (largestPower + 1) ≤ 10 ^ e := Nat.pow_le_pow_right (by decide) (by omega)
  have some_ : 10 ^ e ≤ c * 10 ^ e := Nat.le_mul_of_pos_left _ pos
  have beyond : largest < 10 ^ (largestPower + 1) := by decide +kernel
  exact absurd (Nat.le_trans powers (Nat.le_trans some_ le)) (Nat.not_le_of_lt beyond)

/-- A word with an exponent is read unless it is beyond the largest number. -/
theorem ofParts_isSome (negative : Bool) {c : Nat} {e : Int} (word : c < UInt64.size)
    (bound : 0 ≤ e → c * 10 ^ e.toNat ≤ largest) : ∃ y, ofParts negative c e = some y := by
  unfold ofParts
  dsimp only
  by_cases below : e < 0
  · rw [if_pos below]
    exact ⟨_, rfl⟩
  · rw [if_neg below]
    by_cases zero : (Binary64.ofNat c).isZero = true
    · rw [if_pos zero]
      exact ⟨_, rfl⟩
    · have pos : 0 < c := by
        apply Nat.pos_of_ne_zero
        rintro rfl
        exact zero rfl
      have le := bound (Int.not_lt.1 below)
      have power := le_largestPower pos le
      have finite := isFinite_of_le_largest word power le
      rw [if_neg zero, if_neg (Nat.not_lt_of_le power), if_pos finite]
      exact ⟨_, rfl⟩

end DecimalReading

namespace Binary64

/-- The numbers with the greatest finite magnitude. -/
def IsLargest (x : Binary64) : Prop :=
  x.exponentField = 2046 ∧ x.fractionField = 2 ^ fractionBits - 1

theorem shortest_of_isLargest {x : Binary64} (largest : x.IsLargest) :
    x.shortest = ⟨17976931348623157, 292⟩ := by
  have fields : (withSign false (infinityBits - 1)).IsLargest := ⟨by decide, by decide⟩
  have same : x.shortest = (withSign false (infinityBits - 1)).shortest := by
    unfold shortest isZero interval ratio significand scale
    rw [largest.1, largest.2, fields.1, fields.2]
  rw [same]
  decide +kernel

/-- The end of the interval of any other number. -/
theorem interval_hi_le {x : Binary64} (finite : x.isFinite = true) (other : ¬ x.IsLargest) :
    ((x.interval.hi : Nat) : ℚ) * 2 ^ x.interval.scale ≤ (DecimalReading.largest : Nat) := by
  have field : x.exponentField < 2047 := by simpa [isFinite] using finite
  have fraction : x.fractionField < 2 ^ 52 := Nat.mod_lt _ (Nat.pow_pos (by decide))
  have width : 2 ^ fractionBits = 2 ^ 52 := rfl
  have two : (2 : ℚ) ≠ 0 := by norm_num
  have limit : ((DecimalReading.largest : Nat) : ℚ) = ((2 ^ 55 - 6 : Nat) : ℚ) * 2 ^ (969 : Int) := by
    rw [show (969 : Int) = ((969 : Nat) : Int) from rfl, zpow_natCast, DecimalReading.largest,
      Nat.cast_mul, Nat.cast_pow, Nat.cast_two]
  rw [limit]
  simp only [interval, scale]
  have least : x.significand ≤ 2 ^ 53 - 1 := by
    unfold significand
    split <;> omega
  by_cases top : x.exponentField = 2046
  · have notAll : x.significand ≤ 2 ^ 53 - 2 := by
      have missing : x.fractionField ≠ 2 ^ 52 - 1 := fun all => other ⟨top, all⟩
      unfold significand
      rw [if_neg (by omega)]
      omega
    rw [top]
    have count : 4 * x.significand + 2 ≤ 2 ^ 55 - 6 := by omega
    exact mul_le_mul_of_nonneg_right (Nat.cast_le.2 count) (two_zpow_pos _).le
  · have count : 4 * x.significand + 2 ≤ 2 * (2 ^ 55 - 6) := by omega
    calc ((4 * x.significand + 2 : Nat) : ℚ) * 2 ^ (((max x.exponentField 1 : Nat) : Int) - 1075 - 2)
        ≤ ((2 * (2 ^ 55 - 6) : Nat) : ℚ) * 2 ^ (((max x.exponentField 1 : Nat) : Int) - 1075 - 2) :=
          mul_le_mul_of_nonneg_right (Nat.cast_le.2 count) (two_zpow_pos _).le
      _ ≤ ((2 * (2 ^ 55 - 6) : Nat) : ℚ) * 2 ^ (968 : Int) := by
          apply mul_le_mul_of_nonneg_left _ (Nat.cast_nonneg _)
          apply zpow_le_zpow_right₀ (by norm_num)
          omega
      _ = ((2 ^ 55 - 6 : Nat) : ℚ) * 2 ^ (969 : Int) := by
          rw [show (969 : Int) = 968 + 1 from rfl, zpow_add_one₀ two, Nat.cast_mul, Nat.cast_two]
          ring

/-- The shortest decimal of any number but the largest is not above what is read. -/
theorem shortest_le_largest {x : Binary64} (finite : x.isFinite = true) (other : ¬ x.IsLargest) :
    x.shortest.AtMost DecimalReading.largest 1 := by
  have below := x.shortest_atMost
  have bound := interval_hi_le finite other
  have den := (scaled_pos Nat.one_pos x.interval.scale).2
  have value := scaled_value 1 x.interval.scale
  rw [Nat.cast_one, one_mul, div_eq_iff (Nat.cast_ne_zero.2 (Nat.ne_of_gt den))] at value
  have ends : x.interval.hi * (scaled 1 x.interval.scale).1 ≤
      DecimalReading.largest * (scaled 1 x.interval.scale).2 := by
    have nonneg : (0 : ℚ) ≤ (scaled 1 x.interval.scale).2 := Nat.cast_nonneg _
    have scaled_ := mul_le_mul_of_nonneg_right bound nonneg
    rw [mul_assoc, ← value] at scaled_
    exact_mod_cast scaled_
  unfold Decimal.AtMost at below ⊢
  apply Nat.le_of_mul_le_mul_right _ den
  calc x.shortest.ratio.1 * 1 * (scaled 1 x.interval.scale).2
      = x.shortest.ratio.1 * (scaled 1 x.interval.scale).2 := by rw [Nat.mul_one]
    _ ≤ x.interval.hi * (scaled 1 x.interval.scale).1 * x.shortest.ratio.2 := below
    _ ≤ DecimalReading.largest * (scaled 1 x.interval.scale).2 * x.shortest.ratio.2 :=
        Nat.mul_le_mul_right _ ends
    _ = DecimalReading.largest * x.shortest.ratio.2 * (scaled 1 x.interval.scale).2 :=
        Nat.mul_right_comm ..

end Binary64

end TokenFaucet.Number
