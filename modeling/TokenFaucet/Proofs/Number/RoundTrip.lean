import TokenFaucet.Proofs.Number.Nearest

set_option autoImplicit false

attribute [local instance (2000)] instPowNat

namespace TokenFaucet.Number

namespace Binary64

section Bits

variable {k m : Nat} {negative : Bool}

/-- The value of the bits that count `m` units of the `k`-th exponent. -/
theorem value_withSign (few : m ≤ 2 ^ 53) (normal : k = 0 ∨ 2 ^ 52 ≤ m)
    (small : k * 2 ^ fractionBits + m < infinityBits) :
    (withSign negative (k * 2 ^ fractionBits + m)).value = m * 2 ^ ((k : Int) - 1074) := by
  have below : k * 2 ^ fractionBits + m < signWeight := Nat.lt_trans small (by decide)
  have width : 2 ^ fractionBits = 2 ^ 52 := rfl
  unfold value significand scale
  rw [exponentField_withSign negative below, fractionField_withSign negative below]
  rw [width] at *
  obtain low | exact_ | high : m < 2 ^ 52 ∨ (2 ^ 52 ≤ m ∧ m < 2 ^ 53) ∨ m = 2 ^ 53 := by omega
  · obtain rfl : k = 0 := by omega
    rw [Nat.zero_mul, Nat.zero_add, Nat.div_eq_of_lt low, Nat.mod_eq_of_lt low, if_pos rfl]
    rfl
  · obtain ⟨r, rfl⟩ := Nat.exists_eq_add_of_le exact_.1
    have less : r < 2 ^ 52 := by omega
    have field : (k * 2 ^ 52 + (2 ^ 52 + r)) / 2 ^ 52 = k + 1 := by omega
    have fraction : (k * 2 ^ 52 + (2 ^ 52 + r)) % 2 ^ 52 = r := by omega
    rw [field, fraction, if_neg (Nat.succ_ne_zero k)]
    congr 2
    omega
  · subst high
    have field : (k * 2 ^ 52 + 2 ^ 53) / 2 ^ 52 = k + 2 := by omega
    have fraction : (k * 2 ^ 52 + 2 ^ 53) % 2 ^ 52 = 0 := by omega
    have place : ((max (k + 2) 1 : Nat) : Int) - 1075 = (k : Int) - 1074 + 1 := by omega
    rw [field, fraction, if_neg (Nat.succ_ne_zero _), place, zpow_add_one₀ (by norm_num)]
    push_cast
    ring

theorem magnitude_withSign (small : m < signWeight) : (withSign negative m).magnitude = m := by
  unfold magnitude
  rw [toNat_withSign negative small]
  cases negative with
  | false => exact Nat.mod_eq_of_lt small
  | true =>
      rw [if_pos rfl, Nat.add_mod_left]
      exact Nat.mod_eq_of_lt small

theorem isNegative_withSign (small : m < signWeight) :
    (withSign negative m).isNegative = negative := by
  unfold isNegative
  rw [toNat_withSign negative small]
  cases negative with
  | false => exact decide_eq_false (Nat.not_le_of_lt small)
  | true => exact decide_eq_true (Nat.le_add_right ..)

end Bits

/-- A number is its sign and its magnitude. -/
theorem withSign_magnitude (x : Binary64) : withSign x.isNegative x.magnitude = x := by
  have bound := x.bits.toNat_lt
  have weight : signWeight + signWeight = 2 ^ 64 := rfl
  have split : (if x.isNegative then signWeight + x.magnitude else x.magnitude) = x.bits.toNat := by
    unfold isNegative magnitude
    simp only [decide_eq_true_eq]
    generalize signWeight = w at weight ⊢
    split
    · next least =>
        rw [Nat.mod_eq_sub_mod least, Nat.mod_eq_of_lt (by omega)]
        omega
    · exact Nat.mod_eq_of_lt (by omega)
  unfold withSign
  rw [split, UInt64.ofNat_toNat]

theorem magnitude_lt (x : Binary64) : x.magnitude < signWeight :=
  Nat.mod_lt _ (by decide)

theorem magnitude_eq (x : Binary64) :
    x.magnitude = x.exponentField * 2 ^ fractionBits + x.fractionField := by
  have split := Nat.div_add_mod x.magnitude (2 ^ fractionBits)
  have exponent := exponentField_withSign x.isNegative x.magnitude_lt
  have fraction := fractionField_withSign x.isNegative x.magnitude_lt
  rw [withSign_magnitude] at exponent fraction
  rw [exponent, fraction, Nat.mul_comm, split]

theorem magnitude_lt_iff {x : Binary64} :
    x.magnitude < infinityBits ↔ x.isFinite = true := by
  have fraction : x.fractionField < 2 ^ fractionBits := Nat.mod_lt _ (Nat.pow_pos (by decide))
  have bits : infinityBits = 2047 * 2 ^ fractionBits := rfl
  rw [magnitude_eq, isFinite, decide_eq_true_eq, bits]
  generalize 2 ^ fractionBits = w at fraction
  constructor
  · intro less
    by_contra more
    have most := Nat.mul_le_mul_right w (Nat.le_of_not_lt more)
    omega
  · intro less
    have most := Nat.mul_le_mul_right w (Nat.succ_le_of_lt less)
    rw [Nat.succ_mul] at most
    omega

section Nearest

variable {n d : Nat} {negative : Bool}

theorem unit_nonneg (n d : Nat) : 0 ≤ unit n d + 1074 := by
  unfold unit
  omega

theorem ofRatio_zero (negative : Bool) (d : Nat) : ofRatio negative 0 d = withSign negative 0 := rfl

theorem value_zero (negative : Bool) : (withSign negative 0).value = 0 := by
  have none := @value_withSign 0 0 negative (Nat.zero_le _) (.inl rfl) (by decide)
  rwa [Nat.cast_zero, Nat.zero_mul, zero_mul] at none

/-- A finite rounded quotient is a count of its units. -/
theorem value_ofRatio (some_ : 0 < n) (pos : 0 < d) (finite : (ofRatio negative n d).isFinite = true) :
    (ofRatio negative n d).value = inUnits n d (unit n d) * 2 ^ unit n d := by
  rw [isFinite_ofRatio_iff, magnitudeBits_eq some_, min_lt_iff, or_iff_left (Nat.lt_irrefl _)] at finite
  have place : ((unit n d + 1074).toNat : Int) - 1074 = unit n d := by
    have nonneg := unit_nonneg n d
    omega
  unfold ofRatio
  rw [magnitudeBits_eq some_, Nat.min_eq_left (Nat.le_of_lt finite), value_withSign
    (inUnits_unit_le some_ pos) ?_ finite, place]
  by_cases lowest : floorLog2 n d < -1022
  · left
    unfold unit
    omega
  · exact .inr (le_inUnits_unit some_ pos (Int.not_lt.1 lowest))

/-- A rounded quotient is at most half a unit away. -/
theorem ofRatio_error (pos : 0 < d) (finite : (ofRatio negative n d).isFinite = true) :
    |(ofRatio negative n d).value - n / d| ≤ 2 ^ unit n d / 2 := by
  obtain rfl | some_ := Nat.eq_zero_or_pos n
  · rw [ofRatio_zero, value_zero, Nat.cast_zero, zero_div, sub_zero, abs_zero]
    exact (half_pos (two_zpow_pos _)).le
  · rw [value_ofRatio some_ pos finite]
    exact inUnits_error n pos (unit n d)

end Nearest

end Binary64

/-- The reals that an interval is of. -/
def RoundingInterval.Contains (i : RoundingInterval) (q : ℚ) : Prop :=
  (i.lo * 2 ^ i.scale ≤ q ∧ q ≤ i.hi * 2 ^ i.scale) ∧
    (i.closed = true ∨ (i.lo * 2 ^ i.scale < q ∧ q < i.hi * 2 ^ i.scale))

namespace Binary64

/-- The lowest exponent that a quotient can have that is not below a power of two. -/
theorem unit_eq {n d : Nat} {s : Int} (some_ : 0 < n) (pos : 0 < d) (lowest : -1074 ≤ s)
    (low : (2 : ℚ) ^ (52 + s) ≤ n / d ∨ s = -1074) (high : (n : ℚ) / d < 2 ^ (53 + s)) :
    unit n d = s := by
  have bounds := floorLog2_spec some_ pos
  have above := (zpow_lt_zpow_iff_right₀ (show (1 : ℚ) < 2 by norm_num)).1
    (lt_of_le_of_lt bounds.1 high)
  unfold unit
  obtain low | low := low
  · have below := (zpow_lt_zpow_iff_right₀ (show (1 : ℚ) < 2 by norm_num)).1
      (lt_of_le_of_lt low bounds.2)
    omega
  · omega

section RoundTrip

variable {x : Binary64} {n d : Nat}

theorem scale_ge (x : Binary64) : -1074 ≤ x.scale := by
  unfold scale
  omega

theorem significand_le (x : Binary64) : x.significand < 2 ^ 53 := by
  have fraction : x.fractionField < 2 ^ 52 := Nat.mod_lt _ (Nat.pow_pos (by decide))
  have width : 2 ^ fractionBits = 2 ^ 52 := rfl
  unfold significand
  split <;> omega

/-- The bits of a number count its units. -/
theorem magnitude_eq_units (x : Binary64) :
    x.magnitude = (x.scale + 1074).toNat * 2 ^ fractionBits + x.significand := by
  rw [magnitude_eq]
  unfold scale significand
  generalize 2 ^ fractionBits = w
  split
  · next low =>
      have place : (((max 0 1 : Nat) : Int) - 1075 + 1074).toNat = 0 := by decide
      rw [low, place]
  · have place : (((max x.exponentField 1 : Nat) : Int) - 1075 + 1074).toNat + 1 = x.exponentField := by
      omega
    generalize (((max x.exponentField 1 : Nat) : Int) - 1075 + 1074).toNat = k at place
    rw [← place, Nat.succ_mul, Nat.add_assoc]

/-- A quarter of a unit. -/
theorem quarter_eq (s : Int) : (2 : ℚ) ^ s = 4 * 2 ^ (s - 2) := by
  rw [zpow_sub₀ (by norm_num)]
  norm_num
  ring

/-- The ends of a rounding interval, in quarters of a unit. -/
theorem interval_ends (nonzero : x.isZero = false) :
    ((x.interval.lo : Nat) : ℚ) = 4 * x.significand - (if x.fractionField = 0 ∧ 1 < x.exponentField
      then 1 else 2) ∧ ((x.interval.hi : Nat) : ℚ) = 4 * x.significand + 2 := by
  have pos := significand_pos nonzero
  simp only [interval, Bool.and_eq_true, decide_eq_true_eq]
  constructor
  · split
    · rw [Nat.cast_sub (by omega)]
      push_cast
      rfl
    · rw [Nat.cast_sub (by omega)]
      push_cast
      rfl
  · push_cast
    rfl

/-- The rounding interval of a number: half a unit on both sides, and the ends if the count of units
is even; below a power of two the units are half as long. -/
theorem contains_bounds {q : ℚ} (nonzero : x.isZero = false) (inside : x.interval.Contains q) :
    (2 * x.significand - 1) * 2 ^ x.scale ≤ 2 * q ∧ 2 * q ≤ (2 * x.significand + 1) * 2 ^ x.scale ∧
      (x.significand % 2 = 0 ∨ ((2 * x.significand - 1) * 2 ^ x.scale < 2 * q ∧
        2 * q < (2 * x.significand + 1) * 2 ^ x.scale)) ∧
      (x.fractionField = 0 → 1 < x.exponentField →
        (4 * x.significand - 1) * 2 ^ x.scale ≤ 4 * q) := by
  have unit_ := two_zpow_pos (x.scale - 2)
  obtain ⟨lo, hi⟩ := interval_ends nonzero
  obtain ⟨⟨low, high⟩, ends⟩ := inside
  have parity : x.interval.closed = true ↔ x.significand % 2 = 0 := beq_iff_eq
  have place : x.interval.scale = x.scale - 2 := rfl
  rw [parity] at ends
  rw [place, lo] at low
  rw [place, hi] at high
  rw [place, lo, hi] at ends
  have most : (if x.fractionField = 0 ∧ 1 < x.exponentField then 1 else 2 : ℚ) ≤ 2 := by
    split <;> norm_num
  rw [quarter_eq]
  generalize (2 : ℚ) ^ (x.scale - 2) = w at unit_ low high ends ⊢
  have least := mul_le_mul_of_nonneg_right most unit_.le
  refine ⟨by linarith, by linarith, ends.imp id fun strict => ⟨?_, ?_⟩, fun fraction exponent => ?_⟩
  · linarith [strict.1]
  · linarith [strict.2]
  · rw [if_pos ⟨fraction, exponent⟩] at low
    linarith

/-- A quotient is rounded to the number of whose interval it is a member. -/
theorem magnitudeBits_eq_magnitude (finite : x.isFinite = true) (nonzero : x.isZero = false)
    (some_ : 0 < n) (pos : 0 < d) (inside : x.interval.Contains (n / d)) :
    magnitudeBits n d = x.magnitude := by
  obtain ⟨low, high, ends, narrow⟩ := contains_bounds nonzero inside
  have bound := magnitude_lt_iff.2 finite
  have floor := x.scale_ge
  have two : (2 : ℚ) ≠ 0 := by norm_num
  have unit_ := two_zpow_pos x.scale
  have most : (x.significand : ℚ) + 1 ≤ 2 ^ 53 := by exact_mod_cast x.significand_le
  have below : (n : ℚ) / d < 2 ^ (53 + x.scale) := by
    rw [zpow_add₀ two]
    have wide := mul_le_mul_of_nonneg_right most unit_.le
    norm_num at wide ⊢
    linarith
  suffices counted : (unit n d + 1074).toNat * 2 ^ fractionBits + inUnits n d (unit n d) =
      x.magnitude by
    rw [magnitudeBits_eq some_, counted, Nat.min_eq_left (Nat.le_of_lt bound)]
  by_cases wide : (2 : ℚ) ^ (52 + x.scale) ≤ n / d ∨ x.scale = -1074
  · rw [unit_eq some_ pos floor wide below, inUnits_eq_of_near pos low high ends, magnitude_eq_units]
  · -- the quotient is below the power of two that the number is
    rw [not_or, not_le] at wide
    obtain ⟨under, above⟩ := wide
    have exponent : 1 < x.exponentField := by
      unfold scale at above
      omega
    have hidden : x.significand = 2 ^ 52 + x.fractionField := by
      unfold significand
      rw [if_neg (by omega)]
      rfl
    have fraction : x.fractionField = 0 := by
      by_contra more
      have count : (2 ^ 52 + 1 : ℚ) ≤ x.significand := by
        have least : 2 ^ 52 + 1 ≤ x.significand := by omega
        exact_mod_cast least
      have scaled_ := mul_le_mul_of_nonneg_right count unit_.le
      rw [zpow_add₀ two] at under
      norm_num at under scaled_
      linarith
    have least := narrow fraction exponent
    rw [fraction, Nat.add_zero] at hidden
    rw [hidden] at least
    have half : (2 : ℚ) ^ x.scale = 2 * 2 ^ (x.scale - 1) := by
      rw [zpow_sub₀ two]
      norm_num
      ring
    have unit' := two_zpow_pos (x.scale - 1)
    have place : unit n d = x.scale - 1 := by
      apply unit_eq some_ pos (by omega)
      · left
        rw [show 52 + (x.scale - 1) = 51 + x.scale by omega, zpow_add₀ two]
        norm_num at least ⊢
        linarith
      · rwa [show 53 + (x.scale - 1) = 52 + x.scale by omega]
    have count : inUnits n d (x.scale - 1) = 2 ^ 53 := by
      rw [zpow_add₀ two] at under
      rw [half] at least under
      norm_num at least under
      apply inUnits_eq_of_near pos
      · push_cast
        norm_num
        linarith
      · push_cast
        norm_num
        linarith
      · left
        decide
    have width : 2 ^ fractionBits = 2 ^ 52 := rfl
    rw [place, count, magnitude_eq_units, hidden, width]
    omega

/-- The units and their count are told by the bits. -/
theorem units_of_magnitude {k m : Nat} (bits : x.magnitude = k * 2 ^ fractionBits + m)
    (few : m < 2 ^ 53) (normal : k = 0 ∨ 2 ^ 52 ≤ m) : x.scale = k - 1074 ∧ x.significand = m := by
  have units := magnitude_eq_units x
  have most := x.significand_le
  have lowest := x.scale_ge
  have least : x.scale = -1074 ∨ 2 ^ 52 ≤ x.significand := by
    unfold scale significand
    by_cases low : x.exponentField = 0
    · rw [low]
      exact .inl (by decide)
    · rw [if_neg low]
      exact .inr (Nat.le_add_right ..)
  have width : 2 ^ fractionBits = 2 ^ 52 := rfl
  rw [units, width] at bits
  omega

/-- What a number is rounded from is a member of its rounding interval. -/
theorem contains_of_magnitudeBits (finite : x.isFinite = true) (nonzero : x.isZero = false)
    (some_ : 0 < n) (pos : 0 < d) (rounded : magnitudeBits n d = x.magnitude) :
    x.interval.Contains (n / d) := by
  have two : (2 : ℚ) ≠ 0 := by norm_num
  have error := abs_le.1 (inUnits_error n pos (unit n d))
  have tie := inUnits_even n pos (unit n d)
  have most := inUnits_unit_le some_ pos
  have bounds := floorLog2_spec some_ pos
  have normal : (unit n d + 1074).toNat = 0 ∨ 2 ^ 52 ≤ inUnits n d (unit n d) := by
    by_cases lowest : floorLog2 n d < -1022
    · left
      unfold unit
      omega
    · exact .inr (le_inUnits_unit some_ pos (Int.not_lt.1 lowest))
  have nonneg := unit_nonneg n d
  have bits : x.magnitude =
      (unit n d + 1074).toNat * 2 ^ fractionBits + inUnits n d (unit n d) := by
    have bound := magnitude_lt_iff.2 finite
    rw [← rounded, magnitudeBits_eq some_] at bound ⊢
    omega
  obtain ⟨lo, hi⟩ := interval_ends nonzero
  have parity : x.interval.closed = true ↔ x.significand % 2 = 0 := beq_iff_eq
  have place : x.interval.scale = x.scale - 2 := rfl
  unfold RoundingInterval.Contains
  rw [parity, place, lo, hi]
  by_cases carried : inUnits n d (unit n d) = 2 ^ 53
  · -- the quotient is just below a power of two
    rw [carried] at error bits
    have width : 2 ^ fractionBits = 2 ^ 52 := rfl
    obtain ⟨exponents, units⟩ := @units_of_magnitude x ((unit n d + 1074).toNat + 1) (2 ^ 52)
      (by rw [bits, width]; omega) (by decide) (.inr (Nat.le_refl _))
    have half : (2 : ℚ) ^ unit n d = 2 * 2 ^ (x.scale - 2) := by
      rw [show unit n d = x.scale - 2 + 1 by omega, zpow_add_one₀ two, mul_comm]
    have below : (n : ℚ) / d < 2 ^ (53 : Int) * 2 ^ unit n d := by
      rw [← zpow_add₀ two]
      refine bounds.2.trans_le (zpow_le_zpow_right₀ (by norm_num) ?_)
      unfold unit
      omega
    have unit_ := two_zpow_pos (x.scale - 2)
    rw [half] at error below
    rw [units]
    norm_num at error below ⊢
    constructor
    · split <;> linarith
    · linarith
  · obtain ⟨exponents, units⟩ := units_of_magnitude bits (by omega) normal
    have same : x.scale = unit n d := by omega
    have unit_ := two_zpow_pos (unit n d - 2)
    have above : x.fractionField = 0 ∧ 1 < x.exponentField →
        (inUnits n d (unit n d) : ℚ) * 2 ^ unit n d ≤ n / d := by
      rintro ⟨fraction, exponent⟩
      have count : inUnits n d (unit n d) = 2 ^ 52 := by
        rw [← units, significand, if_neg (by omega), fraction]
        rfl
      have power : (((2 ^ 52 : Nat) : ℚ)) * 2 ^ unit n d = 2 ^ floorLog2 n d := by
        rw [Nat.cast_pow, Nat.cast_two, ← zpow_natCast, ← zpow_add₀ two]
        congr 1
        unfold scale at same
        unfold unit at same ⊢
        omega
      rw [count, power]
      exact bounds.1
    rw [quarter_eq] at error tie above
    rw [same, units]
    generalize (n : ℚ) / d = q at error tie above ⊢
    generalize (2 : ℚ) ^ (unit n d - 2) = w at unit_ error tie above ⊢
    generalize (inUnits n d (unit n d) : ℚ) = m at error tie above ⊢
    refine ⟨⟨?_, by linarith⟩, tie.imp id fun strict => ⟨?_, ?_⟩⟩
    · split
      · next narrow => linarith [above narrow]
      · linarith
    · have inside := (abs_lt.1 strict).2
      split
      · next narrow => linarith [above narrow]
      · linarith
    · linarith [(abs_lt.1 strict).1]

theorem contains_value (nonzero : x.isZero = false) : x.interval.Contains x.value := by
  have unit_ := two_zpow_pos (x.scale - 2)
  obtain ⟨lo, hi⟩ := interval_ends nonzero
  have place : x.interval.scale = x.scale - 2 := rfl
  have least : (1 : ℚ) ≤ if x.fractionField = 0 ∧ 1 < x.exponentField then 1 else 2 := by
    split <;> norm_num
  have scaled_ := mul_le_mul_of_nonneg_right least unit_.le
  unfold RoundingInterval.Contains
  rw [place, lo, hi, value, quarter_eq x.scale]
  refine ⟨⟨?_, ?_⟩, .inr ⟨?_, ?_⟩⟩ <;> linarith

theorem value_pos (nonzero : x.isZero = false) : 0 < x.value :=
  mul_pos (Nat.cast_pos.2 (significand_pos nonzero)) (two_zpow_pos _)

theorem magnitude_of_isZero (zero : x.isZero = true) : x.magnitude = 0 := by
  simp only [isZero, Bool.and_eq_true, beq_iff_eq] at zero
  rw [magnitude_eq, zero.1, zero.2, Nat.zero_mul]

theorem value_of_isZero (zero : x.isZero = true) : x.value = 0 := by
  simp only [isZero, Bool.and_eq_true, beq_iff_eq] at zero
  rw [value, significand, if_pos zero.1, zero.2, Nat.cast_zero, zero_mul]

/-- The quotient that a number is rounds to it. -/
theorem magnitudeBits_of_value (finite : x.isFinite = true) (pos : 0 < d) (same : (n : ℚ) / d = x.value) :
    magnitudeBits n d = x.magnitude := by
  have den : (d : ℚ) ≠ 0 := Nat.cast_ne_zero.2 (Nat.ne_of_gt pos)
  cases zero : x.isZero with
  | true =>
      rw [value_of_isZero zero, div_eq_zero_iff, or_iff_left den, Nat.cast_eq_zero] at same
      rw [magnitude_of_isZero zero, same]
      rfl
  | false =>
      have some_ : 0 < n := by
        apply Nat.pos_of_ne_zero
        rintro rfl
        have positive := value_pos zero
        rw [← same, Nat.cast_zero, zero_div] at positive
        exact absurd positive (lt_irrefl _)
      apply magnitudeBits_eq_magnitude finite zero some_ pos
      rw [same]
      exact contains_value zero

theorem scaled_den_pos (n : Nat) (e : Int) : 0 < (scaled n e).2 := by
  unfold scaled
  split
  · exact Nat.one_pos
  · exact Nat.pow_pos (by decide)

theorem ratio_pos (x : Binary64) : 0 < x.ratio.2 :=
  scaled_den_pos ..

theorem ratio_value (x : Binary64) : (x.ratio.1 : ℚ) / x.ratio.2 = x.value :=
  scaled_value ..

/-- What is not above a number is not rounded to one above it. -/
theorem magnitudeBits_le_magnitude (finite : x.isFinite = true) (pos : 0 < d)
    (le : (n : ℚ) / d ≤ x.value) : magnitudeBits n d ≤ x.magnitude := by
  rw [← magnitudeBits_of_value finite x.ratio_pos x.ratio_value]
  apply magnitudeBits_mono pos x.ratio_pos
  rw [← ratio_value, div_le_div_iff₀ (Nat.cast_pos.2 pos) (Nat.cast_pos.2 x.ratio_pos)] at le
  exact_mod_cast le

theorem magnitude_le_magnitudeBits (finite : x.isFinite = true) (pos : 0 < d)
    (le : x.value ≤ (n : ℚ) / d) : x.magnitude ≤ magnitudeBits n d := by
  rw [← magnitudeBits_of_value finite x.ratio_pos x.ratio_value]
  apply magnitudeBits_mono x.ratio_pos pos
  rw [← ratio_value, div_le_div_iff₀ (Nat.cast_pos.2 x.ratio_pos) (Nat.cast_pos.2 pos)] at le
  exact_mod_cast le

/-- Quotients that are not above a finite number are rounded to finite numbers. -/
theorem isFinite_ofRatio (negative : Bool) (finite : x.isFinite = true) (pos : 0 < d)
    (le : (n : ℚ) / d ≤ x.value) : (ofRatio negative n d).isFinite = true :=
  isFinite_ofRatio_iff.2 (Nat.lt_of_le_of_lt (magnitudeBits_le_magnitude finite pos le)
    (magnitude_lt_iff.2 finite))

theorem value_ofRatio_le (negative : Bool) (finite : x.isFinite = true) (pos : 0 < d)
    (le : (n : ℚ) / d ≤ x.value) : (ofRatio negative n d).value ≤ x.value := by
  have bits := value_mono negative x.isNegative (magnitudeBits_le_magnitude finite pos le) x.magnitude_lt
  rwa [withSign_magnitude] at bits

theorem le_value_ofRatio (negative : Bool) (finite : x.isFinite = true) (pos : 0 < d)
    (le : x.value ≤ (n : ℚ) / d) : x.value ≤ (ofRatio negative n d).value := by
  have bits := value_mono x.isNegative negative (magnitude_le_magnitudeBits finite pos le)
    (magnitudeBits_lt n d)
  rwa [withSign_magnitude] at bits

variable {y : Binary64}

/-- Numbers are in the order of their bits. -/
theorem magnitude_le_of_value_le (finite : x.isFinite = true) (finite' : y.isFinite = true)
    (le : x.value ≤ y.value) : x.magnitude ≤ y.magnitude := by
  rw [← magnitudeBits_of_value finite x.ratio_pos x.ratio_value]
  apply magnitudeBits_le_magnitude finite' x.ratio_pos
  rwa [ratio_value]

/-- A finite number is its sign and its value. -/
theorem eq_of_value_eq (finite : x.isFinite = true) (finite' : y.isFinite = true)
    (sign : x.isNegative = y.isNegative) (value : x.value = y.value) : x = y := by
  have bits := Nat.le_antisymm (magnitude_le_of_value_le finite finite' value.le)
    (magnitude_le_of_value_le finite' finite value.ge)
  rw [← x.withSign_magnitude, ← y.withSign_magnitude, sign, bits]

end RoundTrip

/-- The magnitudes of which some number has exactly the value, were there no greatest exponent. -/
def Representable (q : ℚ) : Prop :=
  ∃ (m : Nat) (s : Int), m < 2 ^ 53 ∧ -1074 ≤ s ∧ q = m * 2 ^ s

/-- A magnitude of few bits is its own rounded value. -/
theorem value_ofRatio_of_representable {n d : Nat} {negative : Bool} (pos : 0 < d)
    (finite : (ofRatio negative n d).isFinite = true) (few : Representable ((n : ℚ) / d)) :
    (ofRatio negative n d).value = n / d := by
  obtain rfl | some_ := Nat.eq_zero_or_pos n
  · rw [ofRatio_zero, value_zero, Nat.cast_zero, zero_div]
  obtain ⟨m, s, bits, lowest, same⟩ := few
  have two : (2 : ℚ) ≠ 0 := by norm_num
  have below : (n : ℚ) / d < 2 ^ (53 + s) := by
    rw [same, zpow_add₀ two]
    apply mul_lt_mul_of_pos_right _ (two_zpow_pos s)
    exact_mod_cast bits
  have exponent := (zpow_lt_zpow_iff_right₀ (show (1 : ℚ) < 2 by norm_num)).1
    (lt_of_le_of_lt (floorLog2_spec some_ pos).1 below)
  obtain ⟨j, shift⟩ : ∃ j : Nat, s = unit n d + j := by
    refine ⟨(s - unit n d).toNat, ?_⟩
    unfold unit
    omega
  have whole : (n : ℚ) / d = (m * 2 ^ j : Nat) * 2 ^ unit n d := by
    rw [same, shift, zpow_add₀ two, zpow_natCast]
    push_cast
    ring
  have unit_ := two_zpow_pos (unit n d)
  have count : inUnits n d (unit n d) = m * 2 ^ j := by
    apply inUnits_eq_of_near pos
    · rw [whole]
      linarith
    · rw [whole]
      linarith
    · right
      rw [whole]
      constructor <;> linarith
  rw [value_ofRatio some_ pos finite, count, whole]

end Binary64

end TokenFaucet.Number
