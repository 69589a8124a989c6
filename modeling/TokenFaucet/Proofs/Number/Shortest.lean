import TokenFaucet.Number.ShortestDecimal

set_option autoImplicit false

attribute [local instance (2000)] instPowNat

namespace TokenFaucet.Number

namespace Decimal

/-- The value of a decimal as a quotient. -/
def ratio (d : Decimal) : Nat × Nat :=
  if 0 ≤ d.exponent then (d.digits * 10 ^ d.exponent.toNat, 1)
  else (d.digits, 10 ^ (-d.exponent).toNat)

/-- The order of a decimal and a quotient. -/
def AtMost (d : Decimal) (n den : Nat) : Prop :=
  d.ratio.1 * den ≤ n * d.ratio.2

end Decimal

namespace Binary64

theorem scaled_pos {n : Nat} (pos : 0 < n) (e : Int) : 0 < (scaled n e).1 ∧ 0 < (scaled n e).2 := by
  unfold scaled
  split
  · exact ⟨Nat.mul_pos pos (Nat.pow_pos (by decide)), Nat.one_pos⟩
  · exact ⟨pos, Nat.pow_pos (by decide)⟩

theorem significand_pos {x : Binary64} (nonzero : x.isZero = false) : 0 < x.significand := by
  unfold significand
  split
  · next low =>
      have field : x.fractionField ≠ 0 := by
        intro zero
        simp [isZero, low, zero] at nonzero
      omega
  · have hidden : 0 < 2 ^ fractionBits := Nat.pow_pos (by decide)
    omega

theorem interval_lo_pos {x : Binary64} (nonzero : x.isZero = false) : 0 < x.interval.lo := by
  have pos := significand_pos nonzero
  simp only [interval]
  split <;> omega

end Binary64

namespace ShortestDecimal

variable {i : RoundingInterval} {c : Nat} {e : Int}

/-- A decimal that lies in an interval is not above its end. -/
theorem atMost_of_accepts (accepted : accepts i c e = true) :
    (Decimal.mk c e).AtMost (i.hi * (Binary64.scaled 1 i.scale).1) (Binary64.scaled 1 i.scale).2 := by
  unfold accepts at accepted
  unfold Decimal.AtMost Decimal.ratio
  by_cases sign : 0 ≤ e
  · simp only [sign, if_true] at accepted ⊢
    split at accepted
    · simp only [Bool.and_eq_true, decide_eq_true_eq] at accepted
      exact accepted.2
    · simp only [Bool.and_eq_true, decide_eq_true_eq] at accepted
      exact Nat.le_of_lt accepted.2
  · simp only [sign, if_false] at accepted ⊢
    split at accepted
    · simp only [Bool.and_eq_true, decide_eq_true_eq] at accepted
      exact accepted.2
    · simp only [Bool.and_eq_true, decide_eq_true_eq] at accepted
      exact Nat.le_of_lt accepted.2

/-- Nothing but a positive decimal lies in an interval of positive reals. -/
theorem pos_of_accepts (lo : 0 < i.lo) (accepted : accepts i c e = true) : 0 < c := by
  apply Nat.pos_of_ne_zero
  rintro rfl
  have num := (Binary64.scaled_pos Nat.one_pos i.scale).1
  have ten : 0 < 10 ^ (-e).toNat := Nat.pow_pos (by decide)
  have low : 0 < i.lo * (Binary64.scaled 1 i.scale).1 * 1 := by
    rw [Nat.mul_one]
    exact Nat.mul_pos lo num
  have low' : 0 < i.lo * (Binary64.scaled 1 i.scale).1 * 10 ^ (-e).toNat :=
    Nat.mul_pos (Nat.mul_pos lo num) ten
  unfold accepts at accepted
  by_cases sign : 0 ≤ e
  · simp only [sign, if_true, Nat.zero_mul] at accepted
    split at accepted <;> simp only [Bool.and_eq_true, decide_eq_true_eq] at accepted <;> omega
  · simp only [sign, if_false, Nat.zero_mul] at accepted
    split at accepted <;> simp only [Bool.and_eq_true, decide_eq_true_eq] at accepted <;> omega

/-- A search ends with nothing or with what it looks for. -/
theorem search_cases (i : RoundingInterval) (top : Int) (fuel count : Nat) :
    search i top fuel count = ⟨0, 0⟩ ∨
      accepts i (search i top fuel count).digits (search i top fuel count).exponent = true := by
  induction fuel generalizing count with
  | zero => exact .inl rfl
  | succ fuel ih =>
      unfold search
      dsimp only
      split
      · next c found =>
          have accepted := List.find?_some found
          exact .inr accepted
      · exact ih (count + 1)

/-- A zero at the end of the digits counts nothing. -/
theorem atMost_tenth {n den : Nat} {d : Decimal} (zero : d.digits % 10 = 0) (below : d.AtMost n den) :
    (Decimal.mk (d.digits / 10) (d.exponent + 1)).AtMost n den := by
  obtain ⟨digits, e⟩ := d
  obtain ⟨tenth, rfl⟩ := Nat.dvd_of_mod_eq_zero zero
  simp only [Decimal.AtMost, Decimal.ratio,
    Nat.mul_div_cancel_left _ (show 0 < 10 by decide)] at below ⊢
  by_cases sign : 0 ≤ e
  · have power : (e + 1).toNat = e.toNat + 1 := by omega
    rw [if_pos sign] at below
    rw [if_pos (by omega), power, Nat.pow_succ]
    calc tenth * (10 ^ e.toNat * 10) * den = 10 * tenth * 10 ^ e.toNat * den := by
          rw [Nat.mul_comm (10 ^ e.toNat), ← Nat.mul_assoc, Nat.mul_comm tenth]
      _ ≤ n * 1 := below
  · rw [if_neg sign] at below
    by_cases last : 0 ≤ e + 1
    · have power : (-e).toNat = 1 := by omega
      have none : (e + 1).toNat = 0 := by omega
      rw [power, Nat.pow_one, Nat.mul_assoc, Nat.mul_comm n] at below
      rw [if_pos last, none]
      dsimp only at below ⊢
      rw [Nat.pow_zero, Nat.mul_one, Nat.mul_one]
      exact Nat.le_of_mul_le_mul_left below (by decide)
    · have power : (-e).toNat = (-(e + 1)).toNat + 1 := by omega
      rw [power, Nat.pow_succ] at below
      rw [if_neg last]
      dsimp only at below ⊢
      apply Nat.le_of_mul_le_mul_left _ (show 0 < 10 by decide)
      calc 10 * (tenth * den) = 10 * tenth * den := (Nat.mul_assoc ..).symm
        _ ≤ n * (10 ^ (-(e + 1)).toNat * 10) := below
        _ = 10 * (n * 10 ^ (-(e + 1)).toNat) := by
          rw [Nat.mul_comm 10, Nat.mul_assoc]

theorem withoutZeros_atMost {n den : Nat} {d : Decimal} (below : d.AtMost n den) (fuel : Nat) :
    (withoutZeros fuel d).AtMost n den := by
  induction fuel generalizing d with
  | zero => exact below
  | succ fuel ih =>
      unfold withoutZeros
      split
      · next zero => exact ih (atMost_tenth zero.1 below)
      · exact below

theorem withoutZeros_zero (fuel : Nat) : withoutZeros fuel ⟨0, 0⟩ = ⟨0, 0⟩ := by
  cases fuel <;> rfl

theorem withoutZeros_pos {d : Decimal} (pos : 0 < d.digits) (fuel : Nat) :
    0 < (withoutZeros fuel d).digits := by
  induction fuel generalizing d with
  | zero => exact pos
  | succ fuel ih =>
      unfold withoutZeros
      split
      · exact ih (show 0 < d.digits / 10 by omega)
      · exact pos

end ShortestDecimal

theorem Binary64.shortest_cases (x : Binary64) :
    x.shortest = ⟨0, 0⟩ ∨ 0 < x.shortest.digits := by
  unfold shortest
  by_cases zero : x.isZero = true
  · rw [if_pos zero]
    exact .inl rfl
  · rw [if_neg zero]
    dsimp only
    have lo := interval_lo_pos (Bool.not_eq_true _ ▸ zero)
    obtain none | accepted := ShortestDecimal.search_cases x.interval
      (ShortestDecimal.places x.ratio.1 x.ratio.2) 18 1
    · rw [none]
      exact .inl (ShortestDecimal.withoutZeros_zero 20)
    · exact .inr (ShortestDecimal.withoutZeros_pos (ShortestDecimal.pos_of_accepts lo accepted) 20)

/-- The shortest decimal is not above the reals that round to the number. -/
theorem Binary64.shortest_atMost (x : Binary64) :
    x.shortest.AtMost (x.interval.hi * (scaled 1 x.interval.scale).1)
      (scaled 1 x.interval.scale).2 := by
  have none : (Decimal.mk 0 0).AtMost (x.interval.hi * (scaled 1 x.interval.scale).1)
      (scaled 1 x.interval.scale).2 := by
    simp [Decimal.AtMost, Decimal.ratio]
  unfold shortest
  by_cases zero : x.isZero = true
  · rw [if_pos zero]
    exact none
  · rw [if_neg zero]
    dsimp only
    obtain failed | accepted := ShortestDecimal.search_cases x.interval
      (ShortestDecimal.places x.ratio.1 x.ratio.2) 18 1
    · rw [failed]
      exact ShortestDecimal.withoutZeros_atMost none 20
    · exact ShortestDecimal.withoutZeros_atMost (ShortestDecimal.atMost_of_accepts accepted) 20

end TokenFaucet.Number
