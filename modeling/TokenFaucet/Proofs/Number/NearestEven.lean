import TokenFaucet.Proofs.Number.ReadBack

set_option autoImplicit false

attribute [local instance (2000)] instPowNat

namespace TokenFaucet.Number.Binary64

/-- What a finite number stands for. -/
def real (x : Binary64) : ℚ :=
  if x.isNegative then -x.value else x.value

/-- A finite number than which none is nearer to `q`. Where another one is as near, its significand
is even. -/
structure IsNearest (x : Binary64) (q : ℚ) : Prop where
  finite : x.isFinite = true
  least : ∀ y : Binary64, y.isFinite = true → |x.real - q| ≤ |y.real - q|
  even : ∀ y : Binary64, y.isFinite = true → y.real ≠ x.real → |y.real - q| = |x.real - q| →
    x.significand % 2 = 0

section Reals

variable {x y : Binary64} {u : Int}

theorem real_of_positive (positive : x.isNegative = false) : x.real = x.value := by
  rw [real, positive, if_neg Bool.false_ne_true]

theorem abs_real (x : Binary64) : |x.real| = x.value := by
  unfold real
  split
  · rw [abs_neg, abs_of_nonneg x.value_nonneg]
  · exact abs_of_nonneg x.value_nonneg

/-- A number is a multiple of every power of two that is not above its own. -/
theorem real_eq_multiple (le : u ≤ x.scale) : ∃ k : Int, x.real = k * 2 ^ u := by
  obtain ⟨j, place⟩ : ∃ j : Nat, x.scale = u + j := ⟨(x.scale - u).toNat, by omega⟩
  have two : (2 : ℚ) ≠ 0 := by norm_num
  have multiple : x.value = ((x.significand * 2 ^ j : Nat) : Int) * 2 ^ u := by
    rw [value, place, zpow_add₀ two, zpow_natCast]
    push_cast
    ring
  unfold real
  split
  · refine ⟨-((x.significand * 2 ^ j : Nat) : Int), ?_⟩
    rw [multiple, Int.cast_neg, neg_mul]
  · exact ⟨_, multiple⟩

theorem abs_real_lt (below : x.scale < u) : |x.real| < 2 ^ (52 : Int) * 2 ^ u := by
  have two : (2 : ℚ) ≠ 0 := by norm_num
  have few : (x.significand : ℚ) < 2 ^ (53 : Int) := by
    norm_num
    exact_mod_cast x.significand_le
  calc |x.real| = x.significand * 2 ^ x.scale := x.abs_real
    _ < 2 ^ (53 : Int) * 2 ^ x.scale := mul_lt_mul_of_pos_right few (two_zpow_pos _)
    _ = 2 ^ (53 + x.scale) := (zpow_add₀ two ..).symm
    _ ≤ 2 ^ (52 + u) := zpow_le_zpow_right₀ (by norm_num) (by omega)
    _ = 2 ^ (52 : Int) * 2 ^ u := zpow_add₀ two ..

/-- The last bit of the significand is the last bit. -/
theorem significand_parity (x : Binary64) : x.significand % 2 = x.magnitude % 2 := by
  have width : 2 ^ fractionBits = 2 ^ 52 := rfl
  rw [magnitude_eq, significand, width]
  split <;> omega

theorem value_lt_of_magnitude_lt (finite : x.isFinite = true) (finite' : y.isFinite = true)
    (less : x.magnitude < y.magnitude) : x.value < y.value :=
  lt_of_not_ge fun le => Nat.not_le_of_lt less (magnitude_le_of_value_le finite' finite le)

end Reals

section Rounded

variable {n d : Nat} {y : Binary64}

/-- Other multiples of a unit are at least half a unit away from what is within half a unit of one. -/
theorem half_le_of_multiple {m k : Int} {w q : ℚ} (pos : 0 < w) (near : |m * w - q| ≤ w / 2)
    (other : k ≠ m) : w / 2 ≤ |k * w - q| := by
  have apart : (1 : ℚ) ≤ |((k - m : Int) : ℚ)| := by
    exact_mod_cast Int.one_le_abs (sub_ne_zero.2 other)
  have distance : w ≤ |k * w - m * w| := by
    have scaled_ := mul_le_mul_of_nonneg_right apart pos.le
    rw [one_mul] at scaled_
    rwa [← sub_mul, abs_mul, abs_of_pos pos, ← Int.cast_sub]
  have triangle := abs_sub_le (k * w) q (m * w)
  rw [abs_sub_comm q] at triangle
  linarith

/-- The power of two with 52 zeros in units is no nearer than the rounded quotient. -/
theorem error_le_of_power (pos : 0 < d) (u : Int) :
    |inUnits n d u * 2 ^ u - (n : ℚ) / d| ≤ |2 ^ (52 : Int) * 2 ^ u - (n : ℚ) / d| := by
  have error := inUnits_error n pos u
  by_cases same : inUnits n d u = 2 ^ 52
  · rw [same]
    norm_num
  · refine error.trans ?_
    have half := @half_le_of_multiple (inUnits n d u) (2 ^ 52 : Nat) _ (n / d) (two_zpow_pos u)
      (by exact_mod_cast error) (by exact_mod_cast Ne.symm same)
    norm_num at half ⊢
    exact half

/-- A number other than the rounded quotient is at least half a unit away from the quotient, or its
units are smaller, and then it is below the power of two that the quotient has reached. -/
theorem half_le_or_lt (some_ : 0 < n) (pos : 0 < d)
    (other : y.real ≠ inUnits n d (unit n d) * 2 ^ unit n d) :
    2 ^ unit n d / 2 ≤ |y.real - n / d| ∨
      |inUnits n d (unit n d) * 2 ^ unit n d - (n : ℚ) / d| < |y.real - n / d| := by
  have unit_ := two_zpow_pos (unit n d)
  have error := inUnits_error n pos (unit n d)
  by_cases multiple : unit n d ≤ y.scale
  · left
    obtain ⟨k, same⟩ := real_eq_multiple multiple
    rw [same] at other ⊢
    apply half_le_of_multiple (m := inUnits n d (unit n d)) unit_
    · exact_mod_cast error
    · rintro rfl
      exact other (by push_cast; rfl)
  · right
    have lowest := y.scale_ge
    have normal : 52 + unit n d = floorLog2 n d := by
      unfold unit at multiple ⊢
      omega
    have below := (abs_lt.1 (abs_real_lt (Int.not_le.1 multiple))).2
    have reached : (2 : ℚ) ^ (52 : Int) * 2 ^ unit n d ≤ n / d := by
      rw [← zpow_add₀ (by norm_num), normal]
      exact (floorLog2_spec some_ pos).1
    -- the power of two stands between the number and the quotient
    have power := error_le_of_power (n := n) pos (unit n d)
    have gap : |2 ^ (52 : Int) * 2 ^ unit n d - (n : ℚ) / d| = n / d - 2 ^ (52 : Int) * 2 ^ unit n d := by
      rw [abs_sub_comm, abs_of_nonneg (sub_nonneg.2 reached)]
    have wider : (n : ℚ) / d - y.real ≤ |y.real - n / d| := by
      rw [abs_sub_comm]
      exact le_abs_self _
    linarith

theorem real_ofRatio (some_ : 0 < n) (pos : 0 < d) (finite : (ofRatio false n d).isFinite = true) :
    (ofRatio false n d).real = inUnits n d (unit n d) * 2 ^ unit n d := by
  rw [real_of_positive (isNegative_ofRatio ..), value_ofRatio some_ pos finite]

theorem even_ofRatio (some_ : 0 < n) (finite : (ofRatio false n d).isFinite = true)
    (even : inUnits n d (unit n d) % 2 = 0) : (ofRatio false n d).significand % 2 = 0 := by
  have width : 2 ^ fractionBits = 2 ^ 52 := rfl
  have bound := isFinite_ofRatio_iff.1 finite
  rw [significand_parity, ofRatio, magnitude_withSign (magnitudeBits_lt n d)]
  rw [magnitudeBits_eq some_, width] at bound ⊢
  omega

/-- A rounded quotient is the nearest number to the quotient. -/
theorem isNearest_ofRatio (pos : 0 < d) (finite : (ofRatio false n d).isFinite = true) :
    (ofRatio false n d).IsNearest (n / d) := by
  obtain rfl | some_ := Nat.eq_zero_or_pos n
  · have zero : (ofRatio false 0 d).real = 0 := by
      rw [real_of_positive (isNegative_ofRatio ..), ofRatio_zero, value_zero]
    refine ⟨finite, fun y _ => ?_, fun y _ other tie => ?_⟩ <;>
      rw [zero, Nat.cast_zero, zero_div, sub_zero, sub_zero, abs_zero] at *
    · exact abs_nonneg _
    · exact absurd (abs_eq_zero.1 tie) other
  have rounded := real_ofRatio some_ pos finite
  have error := inUnits_error n pos (unit n d)
  refine ⟨finite, fun y _ => ?_, fun y _ other tie => ?_⟩
  · by_cases same : y.real = (ofRatio false n d).real
    · rw [same]
    · rw [rounded] at same ⊢
      obtain half | less := half_le_or_lt some_ pos same
      · exact error.trans half
      · exact less.le
  · rw [rounded] at other tie
    apply even_ofRatio some_ finite
    obtain half | less := half_le_or_lt some_ pos other
    · refine (inUnits_even n pos (unit n d)).resolve_right fun less => ?_
      exact absurd (half.trans tie.le) (not_le.2 less)
    · exact absurd tie.le (not_le.2 less)

end Rounded

section Unique

variable {x y : Binary64} {q : ℚ}

/-- Of two numbers that are as near one is odd, or a number between them is nearer. -/
theorem IsNearest.not_lt (nearest : x.IsNearest q) (nearest' : y.IsNearest q)
    (positive : x.isNegative = false) (positive' : y.isNegative = false) :
    ¬ x.magnitude < y.magnitude := by
  intro less
  have order := value_lt_of_magnitude_lt nearest.finite nearest'.finite less
  rw [← real_of_positive positive, ← real_of_positive positive'] at order
  have tie := le_antisymm (nearest.least y nearest'.finite) (nearest'.least x nearest.finite)
  have even := nearest.even y nearest'.finite order.ne' tie.symm
  have even' := nearest'.even x nearest.finite order.ne tie
  rw [significand_parity] at even even'
  have bound := magnitude_lt_iff.2 nearest'.finite
  let z := withSign false (x.magnitude + 1)
  have small : x.magnitude + 1 < signWeight := by
    have top := y.magnitude_lt
    omega
  have bits : z.magnitude = x.magnitude + 1 := magnitude_withSign small
  have sign : z.isNegative = false := isNegative_withSign small
  have finite : z.isFinite = true := magnitude_lt_iff.1 (by omega)
  have above := value_lt_of_magnitude_lt nearest.finite finite (by omega)
  have below := value_lt_of_magnitude_lt finite nearest'.finite (by omega)
  rw [← real_of_positive sign, ← real_of_positive positive] at above
  rw [← real_of_positive sign, ← real_of_positive positive'] at below
  have middle := nearest.least z finite
  obtain same | opposite := abs_eq_abs.1 tie
  · linarith
  · rw [abs_of_neg (by linarith : x.real - q < 0)] at middle
    obtain least | most := le_abs.1 middle
    · linarith
    · linarith

/-- There is only one nearest number without a sign. -/
theorem IsNearest.eq (nearest : x.IsNearest q) (nearest' : y.IsNearest q)
    (positive : x.isNegative = false) (positive' : y.isNegative = false) : x = y := by
  have below := nearest.not_lt nearest' positive positive'
  have above := nearest'.not_lt nearest positive' positive
  rw [← x.withSign_magnitude, ← y.withSign_magnitude, positive, positive',
    Nat.le_antisymm (Nat.le_of_not_lt above) (Nat.le_of_not_lt below)]

end Unique

end TokenFaucet.Number.Binary64
