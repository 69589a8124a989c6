import TokenFaucet.Proofs.Number.DecimalReading

set_option autoImplicit false

attribute [local instance (2000)] instPowNat

namespace TokenFaucet.Number

/-- A rounded quotient is at most a half away. -/
theorem roundHalfEven_error (n : Nat) {d : Nat} (pos : 0 < d) :
    |(roundHalfEven n d : ℚ) - n / d| ≤ 1 / 2 := by
  have den : (0 : ℚ) < d := Nat.cast_pos.2 pos
  have split : (n : ℚ) = d * (n / d : Nat) + (n % d : Nat) := by
    exact_mod_cast (Nat.div_add_mod n d).symm
  have quotient : (n : ℚ) / d = (n / d : Nat) + (n % d : Nat) / d := by
    rw [div_eq_iff den.ne', add_mul, div_mul_cancel₀ _ den.ne', mul_comm _ (d : ℚ)]
    exact split
  rw [quotient]
  unfold roundHalfEven
  dsimp only
  have parity := Nat.mod_lt (n / d) (show 0 < 2 by decide)
  generalize n / d = q at parity ⊢
  have rest : ((n % d : Nat) : ℚ) / d < 1 := by
    rw [div_lt_one den]
    exact_mod_cast Nat.mod_lt n pos
  have nonneg : (0 : ℚ) ≤ (n % d : Nat) / d := div_nonneg (Nat.cast_nonneg _) den.le
  split
  · next low =>
      have half : ((n % d : Nat) : ℚ) / d ≤ 1 / 2 := by
        rw [div_le_iff₀ den]
        have cast : ((2 * (n % d) : Nat) : ℚ) < d := Nat.cast_lt.2 low
        push_cast at cast
        linarith
      rw [abs_le]
      constructor <;> linarith
  · next notLow =>
      have half : (1 : ℚ) / 2 ≤ (n % d : Nat) / d := by
        rw [le_div_iff₀ den]
        have cast : (d : ℚ) ≤ ((2 * (n % d) : Nat) : ℚ) := Nat.cast_le.2 (Nat.le_of_not_lt notLow)
        push_cast at cast
        linarith
      split
      · rw [abs_le]
        push_cast
        constructor <;> linarith
      · next notHigh =>
          have same : ((n % d : Nat) : ℚ) / d = 1 / 2 := by
            apply le_antisymm _ half
            rw [div_le_iff₀ den]
            have cast : ((2 * (n % d) : Nat) : ℚ) ≤ d := Nat.cast_le.2 (Nat.le_of_not_lt notHigh)
            push_cast at cast
            linarith
          have most : ((q % 2 : Nat) : ℚ) ≤ 1 := by exact_mod_cast Nat.le_of_lt_succ parity
          have least : (0 : ℚ) ≤ (q % 2 : Nat) := Nat.cast_nonneg _
          rw [same, abs_le]
          push_cast at most least ⊢
          constructor <;> linarith

/-- A quotient that is a half away from what it is rounded to is rounded to the even neighbour. -/
theorem roundHalfEven_even (n : Nat) {d : Nat} (pos : 0 < d) :
    roundHalfEven n d % 2 = 0 ∨ |(roundHalfEven n d : ℚ) - n / d| < 1 / 2 := by
  have den : (0 : ℚ) < d := Nat.cast_pos.2 pos
  have split := Nat.div_add_mod n d
  have rest := Nat.mod_lt n pos
  rw [or_iff_not_imp_left]
  intro odd
  have near : 2 * roundHalfEven n d * d < 2 * n + d ∧ 2 * n < 2 * roundHalfEven n d * d + d := by
    unfold roundHalfEven at odd ⊢
    dsimp only at odd ⊢
    generalize n / d = q at split odd ⊢
    generalize n % d = r at split rest odd ⊢
    have twice : 2 * n = 2 * q * d + 2 * r := by
      rw [← split, Nat.mul_add, Nat.mul_comm d q, Nat.mul_assoc]
    by_cases low : 2 * r < d
    · rw [if_pos low]
      omega
    · rw [if_neg low] at odd ⊢
      by_cases high : d < 2 * r
      · have next : 2 * (q + 1) * d = 2 * q * d + 2 * d := by rw [Nat.mul_add, Nat.add_mul]
        rw [if_pos high]
        omega
      · rw [if_neg high] at odd
        omega
  have low : (2 * roundHalfEven n d * d : ℚ) < 2 * n + d := by exact_mod_cast near.1
  have high : (2 * n : ℚ) < 2 * roundHalfEven n d * d + d := by exact_mod_cast near.2
  have above : (n : ℚ) / d < roundHalfEven n d + 1 / 2 := by
    rw [div_lt_iff₀ den]
    linarith
  have below : (roundHalfEven n d : ℚ) - 1 / 2 < n / d := by
    rw [lt_div_iff₀ den]
    linarith
  rw [abs_lt]
  constructor <;> linarith

/-- A quotient is rounded to an integer that it is at most a half away from, and to the even one of
two such integers. -/
theorem roundHalfEven_eq_of_near {n d m : Nat} (pos : 0 < d) (low : 2 * m * d ≤ 2 * n + d)
    (high : 2 * n ≤ 2 * m * d + d)
    (ends : m % 2 = 0 ∨ (2 * m * d < 2 * n + d ∧ 2 * n < 2 * m * d + d)) :
    roundHalfEven n d = m := by
  have split := Nat.div_add_mod n d
  have rest := Nat.mod_lt n pos
  unfold roundHalfEven
  dsimp only
  generalize n / d = q at split ⊢
  generalize n % d = r at split rest ⊢
  have twice : 2 * n = 2 * q * d + 2 * r := by
    rw [← split, Nat.mul_add, Nat.mul_comm d q, Nat.mul_assoc]
  have atLeast : q ≤ m := by
    by_contra less
    have next : (2 * m + 2) * d ≤ 2 * q * d := Nat.mul_le_mul_right d (by omega)
    rw [Nat.add_mul] at next
    omega
  have atMost : m ≤ q + 1 := by
    by_contra more
    have next : (2 * q + 4) * d ≤ 2 * m * d := Nat.mul_le_mul_right d (by omega)
    rw [Nat.add_mul] at next
    omega
  obtain rfl | rfl : m = q ∨ m = q + 1 := by omega
  · split
    · rfl
    · split <;> omega
  · have next : 2 * (q + 1) * d = 2 * q * d + 2 * d := by rw [Nat.mul_add, Nat.add_mul]
    split
    · omega
    · split <;> omega

namespace Binary64

variable {n d m : Nat} {u : Int}

theorem inUnits_eq_roundHalfEven (n : Nat) (pos : 0 < d) (u : Int) :
    ∃ a b : Nat, 0 < b ∧ inUnits n d u = roundHalfEven a b ∧ (a : ℚ) / b = n / d / 2 ^ u := by
  have power (k : Nat) : 0 < 2 ^ k := Nat.pow_pos (by decide)
  unfold inUnits
  split
  · next sign =>
      obtain ⟨k, rfl⟩ := Int.eq_ofNat_of_zero_le sign
      refine ⟨_, _, Nat.mul_pos pos (power _), rfl, ?_⟩
      rw [Int.toNat_natCast, zpow_natCast, div_div]
      push_cast
      rfl
  · next sign =>
      obtain ⟨k, same⟩ := Int.eq_ofNat_of_zero_le (show 0 ≤ -u by omega)
      have exponent : u = -(k : Int) := by omega
      refine ⟨_, _, pos, rfl, ?_⟩
      rw [same, Int.toNat_natCast, exponent, zpow_neg, zpow_natCast, div_inv_eq_mul, div_mul_eq_mul_div]
      push_cast
      rfl

/-- Counted in units, a quotient is at most half a unit away. -/
theorem inUnits_error (n : Nat) (pos : 0 < d) (u : Int) :
    |(inUnits n d u : ℚ) * 2 ^ u - n / d| ≤ 2 ^ u / 2 := by
  obtain ⟨a, b, den, same, ratio⟩ := inUnits_eq_roundHalfEven n pos u
  have unit_ := two_zpow_pos u
  have error := roundHalfEven_error a den
  rw [same]
  have spread : (roundHalfEven a b : ℚ) * 2 ^ u - n / d = (roundHalfEven a b - a / b) * 2 ^ u := by
    rw [ratio, sub_mul, div_mul_cancel₀ _ unit_.ne']
  rw [spread, abs_mul, abs_of_pos unit_]
  linarith [mul_le_mul_of_nonneg_right error unit_.le]

theorem inUnits_even (n : Nat) (pos : 0 < d) (u : Int) :
    inUnits n d u % 2 = 0 ∨ |(inUnits n d u : ℚ) * 2 ^ u - n / d| < 2 ^ u / 2 := by
  obtain ⟨a, b, den, same, ratio⟩ := inUnits_eq_roundHalfEven n pos u
  have unit_ := two_zpow_pos u
  rw [same]
  refine (roundHalfEven_even a den).imp id fun error => ?_
  have spread : (roundHalfEven a b : ℚ) * 2 ^ u - n / d = (roundHalfEven a b - a / b) * 2 ^ u := by
    rw [ratio, sub_mul, div_mul_cancel₀ _ unit_.ne']
  rw [spread, abs_mul, abs_of_pos unit_]
  linarith [mul_lt_mul_of_pos_right error unit_]

/-- A quotient between the midpoints around a count of units has that count. -/
theorem inUnits_eq_of_near (pos : 0 < d) (low : (2 * m - 1 : ℚ) * 2 ^ u ≤ 2 * (n / d))
    (high : 2 * ((n : ℚ) / d) ≤ (2 * m + 1) * 2 ^ u)
    (ends : m % 2 = 0 ∨
      ((2 * m - 1 : ℚ) * 2 ^ u < 2 * (n / d) ∧ 2 * ((n : ℚ) / d) < (2 * m + 1) * 2 ^ u)) :
    inUnits n d u = m := by
  obtain ⟨a, b, den, same, ratio⟩ := inUnits_eq_roundHalfEven n pos u
  have unit_ := two_zpow_pos u
  have positive : (0 : ℚ) < b := Nat.cast_pos.2 den
  have whole : 2 * ((n : ℚ) / d) = 2 * (a / b) * 2 ^ u := by
    rw [ratio, mul_assoc, div_mul_cancel₀ _ unit_.ne']
  rw [whole] at low high ends
  rw [mul_le_mul_iff_left₀ unit_, ← mul_div_assoc] at low high
  rw [mul_lt_mul_iff_left₀ unit_, mul_lt_mul_iff_left₀ unit_, ← mul_div_assoc] at ends
  rw [le_div_iff₀ positive] at low
  rw [div_le_iff₀ positive] at high
  rw [lt_div_iff₀ positive, div_lt_iff₀ positive] at ends
  rw [same]
  apply roundHalfEven_eq_of_near den
  · rw [← @Nat.cast_le ℚ]
    push_cast
    linarith
  · rw [← @Nat.cast_le ℚ]
    push_cast
    linarith
  · refine ends.imp id fun strict => ⟨?_, ?_⟩
    · rw [← @Nat.cast_lt ℚ]
      push_cast
      linarith [strict.1]
    · rw [← @Nat.cast_lt ℚ]
      push_cast
      linarith [strict.2]

end Binary64

end TokenFaucet.Number
