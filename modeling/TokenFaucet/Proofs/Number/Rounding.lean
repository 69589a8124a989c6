import Mathlib.Algebra.Order.Field.Power
import Mathlib.Algebra.Order.Field.Rat
import Mathlib.Data.Nat.Cast.Order.Field
import Mathlib.Tactic.FieldSimp
import Mathlib.Tactic.Linarith
import Mathlib.Tactic.Positivity
import TokenFaucet.Number.Binary64

set_option autoImplicit false

attribute [local instance (2000)] instPowNat

namespace TokenFaucet.Number

/-- A quotient is below a half if a greater one is. -/
theorem below_half {r d r' d' : Nat} (pos : 0 < d) (le : r * d' ≤ r' * d) (low : 2 * r' < d') :
    2 * r < d := by
  apply Nat.lt_of_mul_lt_mul_right (a := d')
  calc 2 * r * d' = 2 * (r * d') := Nat.mul_assoc ..
    _ ≤ 2 * (r' * d) := Nat.mul_le_mul_left 2 le
    _ = 2 * r' * d := (Nat.mul_assoc ..).symm
    _ < d' * d := Nat.mul_lt_mul_of_pos_right low pos
    _ = d * d' := Nat.mul_comm ..

/-- A quotient is above a half if a smaller one is. -/
theorem above_half {r d r' d' : Nat} (pos' : 0 < d') (le : r * d' ≤ r' * d) (high : d < 2 * r) :
    d' < 2 * r' := by
  apply Nat.lt_of_mul_lt_mul_right (a := d)
  calc d' * d = d * d' := Nat.mul_comm ..
    _ < 2 * r * d' := Nat.mul_lt_mul_of_pos_right high pos'
    _ = 2 * (r * d') := Nat.mul_assoc ..
    _ ≤ 2 * (r' * d) := Nat.mul_le_mul_left 2 le
    _ = 2 * r' * d := (Nat.mul_assoc ..).symm

/-- A greater quotient is not rounded to a smaller integer. -/
theorem roundHalfEven_mono {n d n' d' : Nat} (pos : 0 < d) (pos' : 0 < d')
    (le : n * d' ≤ n' * d) : roundHalfEven n d ≤ roundHalfEven n' d' := by
  have split := Nat.div_add_mod n d
  have split' := Nat.div_add_mod n' d'
  have rest := Nat.mod_lt n pos
  have rest' := Nat.mod_lt n' pos'
  have floors : n / d ≤ n' / d' := by
    apply (Nat.le_div_iff_mul_le pos').2
    apply Nat.le_of_mul_le_mul_right _ pos
    calc n / d * d' * d = n / d * d * d' := Nat.mul_right_comm ..
      _ ≤ n * d' := Nat.mul_le_mul_right d' (Nat.div_mul_le_self n d)
      _ ≤ n' * d := le
  have bounds := roundHalfEven_bounds n d
  have bounds' := roundHalfEven_bounds n' d'
  obtain less | same := Nat.lt_or_eq_of_le floors
  · omega
  · -- between the same two integers the remainders are in order
    have rests : n % d * d' ≤ n' % d' * d := by
      rw [← split, ← split', ← same, Nat.add_mul, Nat.add_mul] at le
      have common : d * (n / d) * d' = d' * (n / d) * d := by
        rw [Nat.mul_right_comm d, Nat.mul_comm d d', Nat.mul_right_comm d']
      omega
    simp only [roundHalfEven, ← same]
    have parity := Nat.mod_lt (n / d) (show 0 < 2 by decide)
    by_cases low : 2 * (n % d) < d
    · rw [if_pos low]
      split
      · exact Nat.le_refl _
      · split <;> omega
    · have notLow : ¬ 2 * (n' % d') < d' := fun low' => low (below_half pos rests low')
      rw [if_neg low, if_neg notLow]
      by_cases high : d < 2 * (n % d)
      · rw [if_pos high, if_pos (above_half pos' rests high)]
      · rw [if_neg high]
        split <;> omega

theorem roundHalfEven_le {n d m : Nat} (pos : 0 < d) (le : n ≤ m * d) : roundHalfEven n d ≤ m := by
  have rounded : roundHalfEven n d ≤ roundHalfEven m 1 :=
    roundHalfEven_mono pos Nat.one_pos (by rwa [Nat.mul_one])
  have exact_ := roundHalfEven_mul m Nat.one_pos
  rw [Nat.mul_one] at exact_
  rwa [exact_] at rounded

theorem le_roundHalfEven {n d m : Nat} (pos : 0 < d) (le : m * d ≤ n) : m ≤ roundHalfEven n d := by
  have rounded : roundHalfEven m 1 ≤ roundHalfEven n d :=
    roundHalfEven_mono Nat.one_pos pos (by rwa [Nat.mul_one])
  have exact_ := roundHalfEven_mul m Nat.one_pos
  rw [Nat.mul_one] at exact_
  rwa [exact_] at rounded

namespace Binary64

/-- A magnitude `n · 2 ^ e` written as a quotient. -/
theorem scaled_value (n : Nat) (e : Int) :
    ((scaled n e).1 : ℚ) / (scaled n e).2 = n * 2 ^ e := by
  unfold scaled
  split
  · next sign =>
      obtain ⟨k, rfl⟩ := Int.eq_ofNat_of_zero_le sign
      push_cast
      rw [Int.toNat_natCast, zpow_natCast, div_one]
  · next sign =>
      obtain ⟨k, same⟩ := Int.eq_ofNat_of_zero_le (show 0 ≤ -e by omega)
      have power : e = -(k : Int) := by omega
      rw [same, Int.toNat_natCast, power, zpow_neg, zpow_natCast, div_eq_mul_inv]
      push_cast
      rfl

variable {n d : Nat}

theorem two_zpow_pos (k : Int) : (0 : ℚ) < 2 ^ k := zpow_pos (by norm_num) k

/-- The quotient against a power of two, as `floorLog2` compares them. -/
theorem atLeast_iff (pos : 0 < d) (k : Int) :
    (if 0 ≤ k then decide (d * 2 ^ k.toNat ≤ n) else decide (d ≤ n * 2 ^ (-k).toNat)) = true ↔
      (2 : ℚ) ^ k ≤ n / d := by
  have den : (0 : ℚ) < d := Nat.cast_pos.2 pos
  rw [le_div_iff₀ den]
  split
  · next sign =>
      obtain ⟨j, rfl⟩ := Int.eq_ofNat_of_zero_le sign
      rw [decide_eq_true_eq, Int.toNat_natCast, zpow_natCast, mul_comm, ← @Nat.cast_le ℚ]
      push_cast
      rfl
  · next sign =>
      obtain ⟨j, same⟩ := Int.eq_ofNat_of_zero_le (show 0 ≤ -k by omega)
      have power : k = -(j : Int) := by omega
      rw [decide_eq_true_eq, same, Int.toNat_natCast, power, zpow_neg, zpow_natCast,
        inv_mul_le_iff₀ (by positivity), mul_comm, ← @Nat.cast_le ℚ]
      push_cast
      rfl

/-- The exponent of a quotient is the greatest whose power of two is not above it. -/
theorem floorLog2_spec (pos : 0 < n) (pos' : 0 < d) :
    (2 : ℚ) ^ floorLog2 n d ≤ n / d ∧ (n : ℚ) / d < 2 ^ (floorLog2 n d + 1) := by
  have den : (0 : ℚ) < d := Nat.cast_pos.2 pos'
  have low : (2 : ℚ) ^ ((Nat.log2 n : Int)) ≤ n := by
    rw [zpow_natCast]
    exact_mod_cast Nat.log2_self_le (Nat.ne_of_gt pos)
  have high : (n : ℚ) < 2 ^ ((Nat.log2 n : Int) + 1) := by
    have bound := Nat.lt_log2_self (n := n)
    rw [← Nat.cast_succ, zpow_natCast]
    exact_mod_cast bound
  have low' : (2 : ℚ) ^ ((Nat.log2 d : Int)) ≤ d := by
    rw [zpow_natCast]
    exact_mod_cast Nat.log2_self_le (Nat.ne_of_gt pos')
  have high' : (d : ℚ) < 2 ^ ((Nat.log2 d : Int) + 1) := by
    have bound := Nat.lt_log2_self (n := d)
    rw [← Nat.cast_succ, zpow_natCast]
    exact_mod_cast bound
  unfold floorLog2
  generalize (Nat.log2 n : Int) = a at low high ⊢
  generalize (Nat.log2 d : Int) = b at low' high' ⊢
  have two : (2 : ℚ) ≠ 0 := by norm_num
  have below : (n : ℚ) / d < 2 ^ (a - b + 1) := by
    rw [div_lt_iff₀ den]
    calc (n : ℚ) < 2 ^ (a + 1) := high
      _ = 2 ^ (a - b + 1) * 2 ^ b := by
        rw [← zpow_add₀ two]
        congr 1
        omega
      _ ≤ 2 ^ (a - b + 1) * d := mul_le_mul_of_nonneg_left low' (two_zpow_pos _).le
  have above : (2 : ℚ) ^ (a - b - 1) ≤ n / d := by
    rw [le_div_iff₀ den]
    calc (2 : ℚ) ^ (a - b - 1) * d ≤ 2 ^ (a - b - 1) * 2 ^ (b + 1) :=
          mul_le_mul_of_nonneg_left high'.le (two_zpow_pos _).le
      _ = 2 ^ a := by
        rw [← zpow_add₀ two]
        congr 1
        omega
      _ ≤ n := low
  dsimp only
  by_cases reached : (2 : ℚ) ^ (a - b) ≤ n / d
  · rw [if_pos ((atLeast_iff pos' (a - b)).2 reached)]
    exact ⟨reached, below⟩
  · rw [if_neg (mt (atLeast_iff pos' (a - b)).1 reached), Int.sub_add_cancel]
    exact ⟨above, not_le.1 reached⟩

/-- The exponent of the unit in the last place of what a quotient is rounded to. -/
def unit (n d : Nat) : Int :=
  max (floorLog2 n d) (-1022) - 52

/-- A quotient counted in units of that exponent. -/
def inUnits (n d : Nat) (u : Int) : Nat :=
  if 0 ≤ u then roundHalfEven n (d * 2 ^ u.toNat) else roundHalfEven (n * 2 ^ (-u).toNat) d

theorem magnitudeBits_eq (pos : 0 < n) (d : Nat) :
    magnitudeBits n d =
      min ((unit n d + 1074).toNat * 2 ^ fractionBits + inUnits n d (unit n d)) infinityBits :=
  if_neg (Nat.ne_of_gt pos)

variable {n' d' m : Nat} {u : Int}

theorem inUnits_mono (pos : 0 < d) (pos' : 0 < d') (le : n * d' ≤ n' * d) (u : Int) :
    inUnits n d u ≤ inUnits n' d' u := by
  have power (k : Nat) : 0 < 2 ^ k := Nat.pow_pos (by decide)
  unfold inUnits
  split
  · apply roundHalfEven_mono (Nat.mul_pos pos (power _)) (Nat.mul_pos pos' (power _))
    rw [← Nat.mul_assoc, ← Nat.mul_assoc]
    exact Nat.mul_le_mul_right _ le
  · apply roundHalfEven_mono pos pos'
    rw [Nat.mul_right_comm, Nat.mul_right_comm n']
    exact Nat.mul_le_mul_right _ le

theorem inUnits_le (pos : 0 < d) (le : (n : ℚ) / d ≤ m * 2 ^ u) : inUnits n d u ≤ m := by
  have den : (0 : ℚ) < d := Nat.cast_pos.2 pos
  rw [div_le_iff₀ den] at le
  unfold inUnits
  split
  · next sign =>
      obtain ⟨k, rfl⟩ := Int.eq_ofNat_of_zero_le sign
      apply roundHalfEven_le (Nat.mul_pos pos (Nat.pow_pos (by decide)))
      rw [zpow_natCast] at le
      rw [Int.toNat_natCast, ← @Nat.cast_le ℚ]
      push_cast
      linarith
  · next sign =>
      obtain ⟨k, same⟩ := Int.eq_ofNat_of_zero_le (show 0 ≤ -u by omega)
      have exponent : u = -(k : Int) := by omega
      apply roundHalfEven_le pos
      rw [exponent, zpow_neg, zpow_natCast, mul_right_comm, ← div_eq_mul_inv,
        le_div_iff₀ (by positivity)] at le
      rw [same, Int.toNat_natCast, ← @Nat.cast_le ℚ]
      push_cast
      exact le

theorem le_inUnits (pos : 0 < d) (le : m * 2 ^ u ≤ (n : ℚ) / d) : m ≤ inUnits n d u := by
  have den : (0 : ℚ) < d := Nat.cast_pos.2 pos
  rw [le_div_iff₀ den] at le
  unfold inUnits
  split
  · next sign =>
      obtain ⟨k, rfl⟩ := Int.eq_ofNat_of_zero_le sign
      apply le_roundHalfEven (Nat.mul_pos pos (Nat.pow_pos (by decide)))
      rw [zpow_natCast] at le
      rw [Int.toNat_natCast, ← @Nat.cast_le ℚ]
      push_cast
      linarith
  · next sign =>
      obtain ⟨k, same⟩ := Int.eq_ofNat_of_zero_le (show 0 ≤ -u by omega)
      have exponent : u = -(k : Int) := by omega
      apply le_roundHalfEven pos
      rw [exponent, zpow_neg, zpow_natCast, mul_right_comm, ← div_eq_mul_inv,
        div_le_iff₀ (by positivity)] at le
      rw [same, Int.toNat_natCast, ← @Nat.cast_le ℚ]
      push_cast
      exact le

/-- A quotient has at most 53 bits in its units. -/
theorem inUnits_unit_le (pos : 0 < n) (pos' : 0 < d) : inUnits n d (unit n d) ≤ 2 ^ 53 := by
  apply inUnits_le pos'
  have bound := (floorLog2_spec pos pos').2
  have two : (2 : ℚ) ≠ 0 := by norm_num
  calc (n : ℚ) / d ≤ 2 ^ (floorLog2 n d + 1) := bound.le
    _ ≤ 2 ^ (53 + unit n d) := by
      apply zpow_le_zpow_right₀ (by norm_num)
      unfold unit
      omega
    _ = 2 ^ (53 : Int) * 2 ^ unit n d := zpow_add₀ two ..
    _ = ((2 ^ 53 : Nat) : ℚ) * 2 ^ unit n d := by norm_num

/-- Above the lowest exponent it has exactly 53 bits. -/
theorem le_inUnits_unit (pos : 0 < n) (pos' : 0 < d) (normal : -1022 ≤ floorLog2 n d) :
    2 ^ 52 ≤ inUnits n d (unit n d) := by
  apply le_inUnits pos'
  have bound := (floorLog2_spec pos pos').1
  have two : (2 : ℚ) ≠ 0 := by norm_num
  calc ((2 ^ 52 : Nat) : ℚ) * 2 ^ unit n d = 2 ^ (52 : Int) * 2 ^ unit n d := by norm_num
    _ = 2 ^ (52 + unit n d) := (zpow_add₀ two ..).symm
    _ = 2 ^ floorLog2 n d := by
      congr 1
      unfold unit
      omega
    _ ≤ n / d := bound

/-- A greater quotient is not rounded to a smaller number. -/
theorem magnitudeBits_mono (pos : 0 < d) (pos' : 0 < d') (le : n * d' ≤ n' * d) :
    magnitudeBits n d ≤ magnitudeBits n' d' := by
  obtain rfl | some_ := Nat.eq_zero_or_pos n
  · exact Nat.zero_le _
  have some' : 0 < n' := by
    apply Nat.pos_of_ne_zero
    rintro rfl
    have less := Nat.mul_pos some_ pos'
    omega
  rw [magnitudeBits_eq some_, magnitudeBits_eq some']
  apply min_le_min_right
  have den : (0 : ℚ) < d := Nat.cast_pos.2 pos
  have den' : (0 : ℚ) < d' := Nat.cast_pos.2 pos'
  have quotients : (n : ℚ) / d ≤ n' / d' := by
    rw [div_le_div_iff₀ den den']
    exact_mod_cast le
  have exponents : floorLog2 n d ≤ floorLog2 n' d' := by
    have bounds := floorLog2_spec some_ pos
    have bounds' := floorLog2_spec some' pos'
    have powers := lt_of_le_of_lt (bounds.1.trans quotients) bounds'.2
    have less := (zpow_lt_zpow_iff_right₀ (show (1 : ℚ) < 2 by norm_num)).1 powers
    omega
  have low := inUnits_unit_le some_ pos
  have units := inUnits_mono pos pos' le (unit n d)
  by_cases same : unit n d = unit n' d'
  · rw [same] at units ⊢
    omega
  · -- the greater number has more bits than the smaller one can have
    have normal : -1022 ≤ floorLog2 n' d' := by
      unfold unit at same
      omega
    have high := le_inUnits_unit some' pos' normal
    have gap : unit n d + 1 ≤ unit n' d' := by
      unfold unit at same ⊢
      omega
    have floor : 0 ≤ unit n d + 1074 := by
      unfold unit
      omega
    have places : (unit n d + 1074).toNat + 1 ≤ (unit n' d' + 1074).toNat := by omega
    have bits : ((unit n d + 1074).toNat + 1) * 2 ^ fractionBits ≤
        (unit n' d' + 1074).toNat * 2 ^ fractionBits := Nat.mul_le_mul_right _ places
    rw [Nat.add_mul, Nat.one_mul] at bits
    have width : 2 ^ fractionBits = 2 ^ 52 := rfl
    generalize 2 ^ fractionBits = w at bits width ⊢
    omega

end Binary64

end TokenFaucet.Number
