import TokenFaucet.Proofs.Number.Closeness

set_option autoImplicit false

attribute [local instance (2000)] instPowNat

namespace TokenFaucet.Number

theorem ten_zpow_pos (k : Int) : (0 : ℚ) < 10 ^ k := zpow_pos (by norm_num) k

namespace Decimal

def value (d : Decimal) : ℚ :=
  d.digits * 10 ^ d.exponent

theorem ratio_pos (d : Decimal) : 0 < d.ratio.2 := by
  unfold ratio
  split
  · exact Nat.one_pos
  · exact Nat.pow_pos (by decide)

theorem ratio_value (d : Decimal) : (d.ratio.1 : ℚ) / d.ratio.2 = d.value := by
  unfold ratio value
  split
  · next sign =>
      obtain ⟨k, same⟩ := Int.eq_ofNat_of_zero_le sign
      rw [same, Int.toNat_natCast, zpow_natCast, Nat.cast_one, div_one]
      push_cast
      rfl
  · next sign =>
      obtain ⟨k, same⟩ := Int.eq_ofNat_of_zero_le (show 0 ≤ -d.exponent by omega)
      have power : d.exponent = -(k : Int) := by omega
      dsimp only
      rw [same, Int.toNat_natCast, power, zpow_neg, zpow_natCast, div_eq_mul_inv]
      push_cast
      rfl

end Decimal

/-- What lies between two members of an interval is a member. -/
theorem RoundingInterval.Contains.between {i : RoundingInterval} {a b q : ℚ} (first : i.Contains a)
    (second : i.Contains b) (low : a ≤ q) (high : q ≤ b) : i.Contains q :=
  ⟨⟨first.1.1.trans low, high.trans second.1.2⟩,
    first.2.elim .inl fun strict => second.2.elim .inl fun strict' =>
      .inr ⟨strict.1.trans_le low, high.trans_lt strict'.2⟩⟩

namespace ShortestDecimal

variable {i : RoundingInterval}

/-- The test for members of an interval. -/
theorem accepts_iff (c : Nat) (e : Int) : accepts i c e = true ↔ i.Contains (c * 10 ^ e) := by
  have unit_ := Binary64.scaled_value 1 i.scale
  have den := Binary64.scaled_den_pos 1 i.scale
  have grid := (Decimal.mk c e).ratio_value
  have ten := (Decimal.mk c e).ratio_pos
  rw [Nat.cast_one, one_mul] at unit_
  unfold accepts
  change (if i.closed = true then
      decide (i.lo * (Binary64.scaled 1 i.scale).1 * (Decimal.mk c e).ratio.2 ≤
        (Decimal.mk c e).ratio.1 * (Binary64.scaled 1 i.scale).2) &&
      decide ((Decimal.mk c e).ratio.1 * (Binary64.scaled 1 i.scale).2 ≤
        i.hi * (Binary64.scaled 1 i.scale).1 * (Decimal.mk c e).ratio.2)
    else
      decide (i.lo * (Binary64.scaled 1 i.scale).1 * (Decimal.mk c e).ratio.2 <
        (Decimal.mk c e).ratio.1 * (Binary64.scaled 1 i.scale).2) &&
      decide ((Decimal.mk c e).ratio.1 * (Binary64.scaled 1 i.scale).2 <
        i.hi * (Binary64.scaled 1 i.scale).1 * (Decimal.mk c e).ratio.2)) = true ↔ _
  generalize (Decimal.mk c e).ratio = g at grid ten ⊢
  generalize Binary64.scaled 1 i.scale = u at unit_ den ⊢
  have positive : (0 : ℚ) < u.2 := Nat.cast_pos.2 den
  have positive' : (0 : ℚ) < g.2 := Nat.cast_pos.2 ten
  have least (a : Nat) : a * u.1 * g.2 ≤ g.1 * u.2 ↔ (a : ℚ) * 2 ^ i.scale ≤ c * 10 ^ e := by
    change _ ↔ _ ≤ (Decimal.mk c e).value
    rw [← unit_, ← grid, ← mul_div_assoc, div_le_div_iff₀ positive positive', ← @Nat.cast_le ℚ]
    push_cast
    rfl
  have most (a : Nat) : g.1 * u.2 ≤ a * u.1 * g.2 ↔ (c * 10 ^ e : ℚ) ≤ a * 2 ^ i.scale := by
    change _ ↔ (Decimal.mk c e).value ≤ _
    rw [← unit_, ← grid, ← mul_div_assoc, div_le_div_iff₀ positive' positive, ← @Nat.cast_le ℚ]
    push_cast
    rfl
  have above (a : Nat) : a * u.1 * g.2 < g.1 * u.2 ↔ (a : ℚ) * 2 ^ i.scale < c * 10 ^ e := by
    rw [← not_le, most, not_le]
  have below (a : Nat) : g.1 * u.2 < a * u.1 * g.2 ↔ (c * 10 ^ e : ℚ) < a * 2 ^ i.scale := by
    rw [← not_le, least, not_le]
  unfold RoundingInterval.Contains
  cases closed : i.closed with
  | true =>
      rw [if_pos rfl, Bool.and_eq_true, decide_eq_true_eq, decide_eq_true_eq, least, most]
      exact ⟨fun both => ⟨both, .inl rfl⟩, And.left⟩
  | false =>
      rw [if_neg (by decide), Bool.and_eq_true, decide_eq_true_eq, decide_eq_true_eq, above, below]
      constructor
      · exact fun both => ⟨⟨both.1.le, both.2.le⟩, .inr both⟩
      · exact fun both => both.2.resolve_left (by decide)

/-- The integers around a quotient, the nearer first. -/
def around (n d : Nat) : List Nat :=
  if n % d = 0 then [n / d]
  else if 2 * (n % d) < d then [n / d, n / d + 1]
  else if d < 2 * (n % d) then [n / d + 1, n / d]
  else [n / d + n / d % 2, n / d + 1 - n / d % 2]

theorem mem_around {n d c : Nat} :
    c ∈ around n d ↔ c = n / d ∨ (n % d ≠ 0 ∧ c = n / d + 1) := by
  have parity := Nat.mod_lt (n / d) (show 0 < 2 by decide)
  unfold around
  split
  · next exact_ => simp [exact_]
  · next rest =>
      split
      · simp [rest]
      · split
        · simp [rest, or_comm]
        · rw [List.mem_cons, List.mem_singleton]
          generalize n / d = q at parity ⊢
          omega

/-- A number on a grid. -/
theorem neighbours_eq (i : RoundingInterval) (e : Int) :
    ∃ n d : Nat, 0 < d ∧ (n : ℚ) / d * 10 ^ e = i.value * 2 ^ i.scale ∧
      neighbours i e = around n d := by
  have magnitude := Binary64.scaled_value i.value i.scale
  have den := Binary64.scaled_den_pos i.value i.scale
  generalize same : Binary64.scaled i.value i.scale = u at magnitude den
  have steps : neighbours i e = around
      (if 0 ≤ e then (u.1, u.2 * 10 ^ e.toNat) else (u.1 * 10 ^ (-e).toNat, u.2)).1
      (if 0 ≤ e then (u.1, u.2 * 10 ^ e.toNat) else (u.1 * 10 ^ (-e).toNat, u.2)).2 := by
    rw [← same]
    rfl
  rw [steps, ← magnitude]
  have power (k : Nat) : (0 : ℚ) < 10 ^ k := by positivity
  split
  · next sign =>
      obtain ⟨k, exponent⟩ := Int.eq_ofNat_of_zero_le sign
      refine ⟨_, _, Nat.mul_pos den (Nat.pow_pos (by decide)), ?_, rfl⟩
      rw [exponent, Int.toNat_natCast, zpow_natCast]
      push_cast
      rw [← div_div, div_mul_cancel₀ _ (power k).ne']
  · next sign =>
      obtain ⟨k, opposite⟩ := Int.eq_ofNat_of_zero_le (show 0 ≤ -e by omega)
      have exponent : e = -(k : Int) := by omega
      refine ⟨_, _, den, ?_, rfl⟩
      rw [opposite, Int.toNat_natCast, exponent, zpow_neg, zpow_natCast]
      push_cast
      rw [mul_div_right_comm, mul_assoc, mul_inv_cancel₀ (power k).ne', mul_one]

/-- One of the neighbours lies between the number and any point of the grid, and none is a whole
step away. -/
theorem neighbours_between (i : RoundingInterval) (e : Int) (c : Nat) :
    ∃ c' ∈ neighbours i e,
      ((c : ℚ) * 10 ^ e ≤ c' * 10 ^ e ∧ (c' : ℚ) * 10 ^ e ≤ i.value * 2 ^ i.scale) ∨
      (i.value * 2 ^ i.scale ≤ (c' : ℚ) * 10 ^ e ∧ (c' : ℚ) * 10 ^ e ≤ c * 10 ^ e) := by
  obtain ⟨n, d, pos, number, same⟩ := neighbours_eq i e
  have den : (0 : ℚ) < d := Nat.cast_pos.2 pos
  have step := (ten_zpow_pos e).le
  have split := Nat.div_add_mod n d
  rw [same, ← number]
  simp only [mem_around]
  by_cases low : c ≤ n / d
  · refine ⟨n / d, .inl rfl, .inl ⟨?_, ?_⟩⟩
    · exact mul_le_mul_of_nonneg_right (Nat.cast_le.2 low) step
    · exact mul_le_mul_of_nonneg_right Nat.cast_div_le step
  · by_cases whole : n % d = 0
    · refine ⟨n / d, .inl rfl, .inr ⟨?_, ?_⟩⟩
      · apply mul_le_mul_of_nonneg_right _ step
        rw [div_le_iff₀ den]
        have product : n ≤ n / d * d := by
          rw [Nat.mul_comm]
          omega
        exact_mod_cast product
      · exact mul_le_mul_of_nonneg_right (Nat.cast_le.2 (by omega)) step
    · refine ⟨n / d + 1, .inr ⟨whole, rfl⟩, .inr ⟨?_, ?_⟩⟩
      · apply mul_le_mul_of_nonneg_right _ step
        rw [div_le_iff₀ den]
        have rest := Nat.mod_lt n pos
        have product : n ≤ (n / d + 1) * d := by
          rw [Nat.succ_mul, Nat.mul_comm]
          omega
        exact_mod_cast product
      · exact mul_le_mul_of_nonneg_right (Nat.cast_le.2 (by omega)) step

theorem neighbours_lt {e : Int} {c : Nat} (mem : c ∈ neighbours i e) :
    (c : ℚ) * 10 ^ e < i.value * 2 ^ i.scale + 10 ^ e := by
  obtain ⟨n, d, pos, number, same⟩ := neighbours_eq i e
  have den : (0 : ℚ) < d := Nat.cast_pos.2 pos
  have step := ten_zpow_pos e
  have split := Nat.div_add_mod n d
  rw [same, mem_around] at mem
  have less : (c : ℚ) < n / d + 1 := by
    obtain rfl | ⟨rest, rfl⟩ := mem
    · exact lt_of_le_of_lt Nat.cast_div_le (lt_add_one _)
    · push_cast
      rw [add_lt_add_iff_right, lt_div_iff₀ den]
      have product : n / d * d < n := by
        rw [Nat.mul_comm]
        omega
      exact_mod_cast product
  have scaled_ := mul_lt_mul_of_pos_right less step
  rwa [add_mul, one_mul, number] at scaled_

/-- A grid with a point in the interval has a neighbour in it. -/
theorem exists_accepted {e : Int} {c : Nat} (self : i.Contains (i.value * 2 ^ i.scale))
    (inside : i.Contains (c * 10 ^ e)) : ∃ c' ∈ neighbours i e, accepts i c' e = true := by
  obtain ⟨c', mem, below | above⟩ := neighbours_between i e c
  · exact ⟨c', mem, (accepts_iff c' e).2 (inside.between self below.1 below.2)⟩
  · exact ⟨c', mem, (accepts_iff c' e).2 (self.between inside above.1 above.2)⟩

/-- The search ends no later than on a grid with a point in the interval. -/
theorem search_spec {top : Int} {fuel count goal : Nat} {c : Nat}
    (self : i.Contains (i.value * 2 ^ i.scale)) (inside : i.Contains (c * 10 ^ (top - goal)))
    (le : count ≤ goal) (enough : goal < count + fuel) :
    ∃ last ≤ goal, (search i top fuel count).exponent = top - last ∧
      i.Contains (search i top fuel count).value ∧
      (search i top fuel count).digits ∈ neighbours i (top - last) := by
  induction fuel generalizing count with
  | zero => omega
  | succ fuel ih =>
      unfold search
      dsimp only
      split
      · next c' found =>
          have accepted := List.find?_some found
          exact ⟨count, le, rfl, (accepts_iff c' _).1 accepted, List.mem_of_find?_eq_some found⟩
      · next nothing =>
          apply ih _ (by omega)
          apply Nat.lt_of_le_of_ne le
          rintro rfl
          obtain ⟨c', mem, accepted⟩ := exists_accepted self inside
          exact List.find?_eq_none.1 nothing c' mem accepted

theorem value_withoutZeros (fuel : Nat) (d : Decimal) : (withoutZeros fuel d).value = d.value := by
  induction fuel generalizing d with
  | zero => rfl
  | succ fuel ih =>
      unfold withoutZeros
      split
      · next zero =>
          obtain ⟨tenth, same⟩ := Nat.dvd_of_mod_eq_zero zero.1
          rw [ih, Decimal.value, Decimal.value, same, Nat.mul_div_cancel_left _ (by decide),
            zpow_add_one₀ (by norm_num)]
          push_cast
          ring
      · rfl

/-- Digits are dropped at the end only. -/
theorem withoutZeros_le (fuel : Nat) (d : Decimal) :
    (withoutZeros fuel d).digits ≤ d.digits ∧ d.exponent ≤ (withoutZeros fuel d).exponent := by
  induction fuel generalizing d with
  | zero => exact ⟨Nat.le_refl _, Int.le_refl _⟩
  | succ fuel ih =>
      unfold withoutZeros
      split
      · obtain ⟨fewer, higher⟩ := ih ⟨d.digits / 10, d.exponent + 1⟩
        dsimp only at fewer higher
        omega
      · exact ⟨Nat.le_refl _, Int.le_refl _⟩

section Places

variable {n d : Nat}

/-- The test for the places before the point. -/
theorem below_iff (pos : 0 < d) (k : Int) :
    (if 0 ≤ k then decide (n < d * 10 ^ k.toNat) else decide (n * 10 ^ (-k).toNat < d)) = true ↔
      (n : ℚ) / d < 10 ^ k := by
  have den : (0 : ℚ) < d := Nat.cast_pos.2 pos
  rw [div_lt_iff₀ den]
  split
  · next sign =>
      obtain ⟨j, rfl⟩ := Int.eq_ofNat_of_zero_le sign
      rw [decide_eq_true_eq, Int.toNat_natCast, zpow_natCast, mul_comm, ← @Nat.cast_lt ℚ]
      push_cast
      rfl
  · next sign =>
      obtain ⟨j, same⟩ := Int.eq_ofNat_of_zero_le (show 0 ≤ -k by omega)
      have power : k = -(j : Int) := by omega
      rw [decide_eq_true_eq, same, Int.toNat_natCast, power, zpow_neg, zpow_natCast,
        lt_inv_mul_iff₀ (by positivity), mul_comm, ← @Nat.cast_lt ℚ]
      push_cast
      rfl

theorem placesFrom_spec (pos : 0 < d) (fuel : Nat) {k : Int} (low : (10 : ℚ) ^ (k - 1) ≤ n / d)
    (high : (n : ℚ) / d < 10 ^ (k + fuel)) :
    (10 : ℚ) ^ (placesFrom n d fuel k - 1) ≤ n / d ∧ (n : ℚ) / d < 10 ^ placesFrom n d fuel k := by
  induction fuel generalizing k with
  | zero =>
      rw [Nat.cast_zero, Int.add_zero] at high
      exact ⟨low, high⟩
  | succ fuel ih =>
      unfold placesFrom
      dsimp only
      by_cases below : (n : ℚ) / d < 10 ^ k
      · rw [if_pos ((below_iff pos k).2 below)]
        exact ⟨low, below⟩
      · rw [if_neg (mt (below_iff pos k).1 below)]
        apply ih
        · rw [Int.add_sub_cancel]
          exact not_lt.1 below
        · rw [Int.add_assoc, Int.add_comm 1]
          exact high

/-- The estimate of the decimal places of powers of two that are not below one. -/
theorem estimate_nonneg : ∀ l < 1024, 10 ^ (l * 1233 / 4096) ≤ 100 * 2 ^ l ∧
    2 ^ (l + 1) ≤ 10 ^ (l * 1233 / 4096 + 3) := by
  decide +kernel

/-- The estimate for powers of two that are below one. -/
theorem estimate_neg : ∀ l < 1075, 2 ^ l ≤ 10 ^ ((l * 1233 + 4095) / 4096 + 2) ∧
    2 * 10 ^ ((l * 1233 + 4095) / 4096) ≤ 1000 * 2 ^ l := by
  decide +kernel

/-- The estimate of the decimal places of a power of two. -/
theorem estimate_spec {l : Int} (least : -1074 ≤ l) (most : l ≤ 1023) :
    (10 : ℚ) ^ (Int.fdiv (l * 1233) 4096 - 2) ≤ 2 ^ l ∧
      (2 : ℚ) ^ (l + 1) ≤ 10 ^ (Int.fdiv (l * 1233) 4096 + 3) := by
  have two : (2 : ℚ) ≠ 0 := by norm_num
  have ten : (10 : ℚ) ≠ 0 := by norm_num
  rw [Int.fdiv_eq_ediv_of_nonneg _ (by decide), zpow_sub₀ ten, zpow_add₀ ten, zpow_add_one₀ two]
  obtain sign | sign := Int.lt_or_le l 0
  · obtain ⟨j, rfl⟩ := Int.exists_eq_neg_ofNat sign.le
    have bounds := estimate_neg j (by omega)
    have places : -(j : Int) * 1233 / 4096 = -(((j * 1233 + 4095) / 4096 : Nat) : Int) := by omega
    rw [places]
    generalize (j * 1233 + 4095) / 4096 = t at bounds
    obtain ⟨low, high⟩ := bounds
    have power : (0 : ℚ) < 2 ^ j := by positivity
    have power' : (0 : ℚ) < 10 ^ t := by positivity
    rw [zpow_neg, zpow_neg, zpow_natCast, zpow_natCast]
    rw [Nat.pow_add, ← @Nat.cast_le ℚ] at low
    rw [← @Nat.cast_le ℚ] at high
    push_cast at low high
    constructor
    · rw [← one_div, ← one_div, div_div]
      exact one_div_le_one_div_of_le power low
    · rw [← div_eq_inv_mul, ← div_eq_inv_mul, div_le_div_iff₀ power power']
      norm_num
      exact high
  · obtain ⟨j, rfl⟩ := Int.eq_ofNat_of_zero_le sign
    have bounds := estimate_nonneg j (by omega)
    have places : (j : Int) * 1233 / 4096 = ((j * 1233 / 4096 : Nat) : Int) := by omega
    rw [places]
    generalize j * 1233 / 4096 = t at bounds
    obtain ⟨low, high⟩ := bounds
    rw [Nat.pow_succ, Nat.pow_add, ← @Nat.cast_le ℚ] at high
    rw [← @Nat.cast_le ℚ] at low
    push_cast at low high
    rw [zpow_natCast, zpow_natCast]
    constructor
    · rw [div_le_iff₀ (by norm_num)]
      norm_num at low ⊢
      linarith
    · norm_num at high ⊢
      linarith

/-- The places before the point of any binary number's magnitude. -/
theorem places_spec (some_ : 0 < n) (pos : 0 < d) (least : -1074 ≤ Binary64.floorLog2 n d)
    (most : Binary64.floorLog2 n d ≤ 1023) :
    (10 : ℚ) ^ (places n d - 1) ≤ n / d ∧ (n : ℚ) / d < 10 ^ places n d := by
  have bounds := Binary64.floorLog2_spec some_ pos
  obtain ⟨low, high⟩ := estimate_spec least most
  unfold places
  dsimp only
  apply placesFrom_spec pos
  · rw [Int.sub_sub]
    exact low.trans bounds.1
  · rw [show ∀ t : Int, t - 1 + (4 : Nat) = t + 3 by omega]
    exact bounds.2.trans_le high

end Places

end ShortestDecimal

namespace Binary64

variable {x : Binary64}

/-- The decimal places before the point of a number. -/
def places (x : Binary64) : Int :=
  ShortestDecimal.places x.ratio.1 x.ratio.2

theorem value_bounds (finite : x.isFinite = true) (nonzero : x.isZero = false) :
    (2 : ℚ) ^ (-1074 : Int) ≤ x.value ∧ x.value < 2 ^ (1024 : Int) := by
  have least : (1 : ℚ) ≤ x.significand := by exact_mod_cast significand_pos nonzero
  have most : (x.significand : ℚ) < 2 ^ (53 : Int) := by exact_mod_cast x.significand_le
  have unit_ := two_zpow_pos x.scale
  have top : x.scale ≤ 971 := by
    simp only [isFinite, decide_eq_true_eq] at finite
    unfold scale
    omega
  constructor
  · calc (2 : ℚ) ^ (-1074 : Int) ≤ 2 ^ x.scale := zpow_le_zpow_right₀ (by norm_num) x.scale_ge
      _ ≤ x.value := le_mul_of_one_le_left unit_.le least
  · calc x.value < 2 ^ (53 : Int) * 2 ^ x.scale := mul_lt_mul_of_pos_right most unit_
      _ = 2 ^ (53 + x.scale) := (zpow_add₀ (by norm_num) ..).symm
      _ ≤ 2 ^ (1024 : Int) := zpow_le_zpow_right₀ (by norm_num) (by omega)

theorem places_bounds (finite : x.isFinite = true) (nonzero : x.isZero = false) :
    (10 : ℚ) ^ (x.places - 1) ≤ x.value ∧ x.value < 10 ^ x.places := by
  have some_ : 0 < x.ratio.1 := (scaled_pos (significand_pos nonzero) _).1
  have bounds := floorLog2_spec some_ x.ratio_pos
  have range := value_bounds finite nonzero
  rw [ratio_value] at bounds
  have one_lt : (1 : ℚ) < 2 := by norm_num
  have low := (zpow_lt_zpow_iff_right₀ one_lt).1 (range.1.trans_lt bounds.2)
  have high := (zpow_lt_zpow_iff_right₀ one_lt).1 (bounds.1.trans_lt range.2)
  rw [← ratio_value]
  exact ShortestDecimal.places_spec some_ x.ratio_pos (by omega) (by omega)

theorem interval_value (x : Binary64) :
    ((x.interval.value : Nat) : ℚ) * 2 ^ x.interval.scale = x.value := by
  change ((4 * x.significand : Nat) : ℚ) * 2 ^ (x.scale - 2) = x.significand * 2 ^ x.scale
  rw [zpow_sub₀ (by norm_num)]
  push_cast
  ring

/-- The shortest decimal names a real that rounds to the number, with no more digits than a grid has on
which there is some such real. -/
theorem shortest_spec (finite : x.isFinite = true) (nonzero : x.isZero = false) {goal c : Nat}
    (pos : 1 ≤ goal) (few : goal ≤ 18) (inside : x.interval.Contains (c * 10 ^ (x.places - goal))) :
    x.interval.Contains x.shortest.value ∧ x.shortest.digits ≤ 10 ^ goal ∧
      x.places - goal ≤ x.shortest.exponent := by
  have self := contains_value nonzero
  rw [← interval_value] at self
  have same : x.shortest = ShortestDecimal.withoutZeros 20
      (ShortestDecimal.search x.interval x.places 18 1) := by
    unfold shortest
    rw [nonzero, if_neg (by decide)]
    rfl
  obtain ⟨last, le, exponent, contains, neighbour⟩ :=
    ShortestDecimal.search_spec self inside pos (show goal < 1 + 18 by omega)
  rw [same]
  generalize ShortestDecimal.search x.interval x.places 18 1 = found at *
  obtain ⟨fewer, higher⟩ := ShortestDecimal.withoutZeros_le 20 found
  rw [ShortestDecimal.value_withoutZeros]
  refine ⟨contains, fewer.trans ?_, by omega⟩
  have below := ShortestDecimal.neighbours_lt neighbour
  rw [interval_value] at below
  have step := ten_zpow_pos (x.places - last)
  have whole : (10 : ℚ) ^ x.places = 10 ^ last * 10 ^ (x.places - last) := by
    rw [← zpow_natCast, ← zpow_add₀ (by norm_num)]
    congr 1
    omega
  have bound := (places_bounds finite nonzero).2
  have count : (found.digits : ℚ) < 10 ^ last + 1 := by
    apply lt_of_mul_lt_mul_right _ step.le
    linarith
  have digits : found.digits < 10 ^ last + 1 := by exact_mod_cast count
  exact (Nat.le_of_lt_succ digits).trans (Nat.pow_le_pow_right (by decide) le)

/-- What is near a number, compared with its units, rounds to it. -/
theorem contains_of_near {q : ℚ} (nonzero : x.isZero = false)
    (near : |q - x.value| < x.value / 2 ^ 54) : x.interval.Contains q := by
  have unit_ := two_zpow_pos x.interval.scale
  have most : (x.significand : ℚ) < 2 ^ 53 := by exact_mod_cast x.significand_le
  have few : (x.interval.value : ℚ) = 4 * x.significand := by
    simp only [interval]
    push_cast
    rfl
  have high : (x.interval.hi : ℚ) = x.interval.value + 2 := by
    simp only [interval]
    push_cast
    rfl
  -- a quarter of a unit below a power of two, half a unit elsewhere
  have low : (x.interval.lo : ℚ) + x.interval.value / 2 ^ 54 ≤ x.interval.value := by
    have pos := significand_pos nonzero
    rw [few]
    simp only [interval]
    split
    · next narrow =>
        have power : x.significand = 2 ^ 52 := by
          simp only [Bool.and_eq_true, decide_eq_true_eq] at narrow
          unfold significand
          rw [if_neg (by omega), narrow.1]
          rfl
        rw [power]
        norm_num
    · rw [Nat.cast_sub (by omega)]
      push_cast
      linarith
  have value := interval_value x
  obtain ⟨below, above⟩ := abs_lt.1 near
  rw [← value] at below above
  have strict : x.interval.lo * 2 ^ x.interval.scale < q ∧ q < x.interval.hi * 2 ^ x.interval.scale := by
    constructor
    · have scaled_ := mul_le_mul_of_nonneg_right low unit_.le
      linarith
    · rw [high]
      have scaled_ := mul_lt_mul_of_pos_right most unit_
      rw [few] at above ⊢
      linarith
  exact ⟨⟨strict.1.le, strict.2.le⟩, .inr strict⟩

/-- Seventeen digits name a real that rounds to the number. -/
theorem exists_seventeen (finite : x.isFinite = true) (nonzero : x.isZero = false) :
    ∃ c : Nat, x.interval.Contains (c * 10 ^ (x.places - (17 : Nat))) := by
  obtain ⟨n, d, pos, number, -⟩ := ShortestDecimal.neighbours_eq x.interval (x.places - (17 : Nat))
  have step := ten_zpow_pos (x.places - (17 : Nat))
  have error := mul_le_mul_of_nonneg_right (roundHalfEven_error n pos) step.le
  have bound := (places_bounds finite nonzero).1
  have positive := value_pos nonzero
  refine ⟨roundHalfEven n d, contains_of_near nonzero ?_⟩
  rw [← abs_of_pos step, ← abs_mul, abs_of_pos step, sub_mul, number, interval_value] at error
  refine error.trans_lt ?_
  have tenths : (10 : ℚ) ^ (x.places - 1) = 10 ^ 16 * 10 ^ (x.places - (17 : Nat)) := by
    rw [← zpow_natCast, ← zpow_add₀ (by norm_num)]
    congr 1
    omega
  rw [tenths] at bound
  generalize (10 : ℚ) ^ (x.places - (17 : Nat)) = w at bound step
  norm_num at bound ⊢
  linarith

/-- The shortest decimal of a number has at most seventeen digits. -/
theorem shortest_contains (finite : x.isFinite = true) (nonzero : x.isZero = false) :
    x.interval.Contains x.shortest.value ∧ x.shortest.digits ≤ 10 ^ 17 := by
  obtain ⟨c, inside⟩ := exists_seventeen finite nonzero
  obtain ⟨contains, few, -⟩ := shortest_spec finite nonzero (by decide) (by decide) inside
  exact ⟨contains, few⟩

theorem significand_ge (normal : 2 ^ (-1022 : Int) ≤ x.value) : 2 ^ 52 ≤ x.significand := by
  unfold significand
  split
  · next low =>
      have fraction : (x.fractionField : ℚ) < 2 ^ (52 : Int) := by
        have field : x.fractionField < 2 ^ 52 := Nat.mod_lt _ (Nat.pow_pos (by decide))
        exact_mod_cast field
      have place : x.scale = -1074 := by
        unfold scale
        rw [low]
        decide
      have below : x.value < 2 ^ (52 : Int) * 2 ^ (-1074 : Int) := by
        rw [value, place, significand, if_pos low]
        exact mul_lt_mul_of_pos_right fraction (two_zpow_pos _)
      rw [← zpow_add₀ (by norm_num)] at below
      exact absurd normal (not_le.2 below)
  · exact Nat.le_add_right ..

/-- The reals that round to a number are one rounding away from it. -/
theorem within_of_contains {q : ℚ} (normal : 2 ^ (-1022 : Int) ≤ x.value) (nonzero : x.isZero = false)
    (inside : x.interval.Contains q) : Within 1 q x.value := by
  obtain ⟨low, high, -⟩ := contains_bounds nonzero inside
  have unit_ := two_zpow_pos x.scale
  have bits : (2 ^ 52 : ℚ) ≤ x.significand := by exact_mod_cast significand_ge normal
  have half := mul_le_mul_of_nonneg_right bits unit_.le
  apply Within.of_error x.value_nonneg
  rw [abs_le]
  rw [value] at *
  constructor
  · norm_num at half ⊢
    linarith
  · norm_num at half ⊢
    linarith

theorem pos_of_contains {q : ℚ} (nonzero : x.isZero = false) (inside : x.interval.Contains q) : 0 < q :=
  (mul_pos (Nat.cast_pos.2 (interval_lo_pos nonzero)) (two_zpow_pos _)).trans_le inside.1.1

section Fifteen

variable {n k : Nat}

theorem normal_of_contains (nonzero : x.isZero = false) (places : k ≤ 21)
    (inside : x.interval.Contains (n / 10 ^ k)) : 2 ^ (-1022 : Int) ≤ x.value := by
  have power : (0 : ℚ) < 10 ^ k := by positivity
  have some_ : (1 : ℚ) ≤ n := by
    have positive := pos_of_contains nonzero inside
    rw [div_pos_iff_of_pos_right power, Nat.cast_pos] at positive
    exact_mod_cast positive
  have least : (1 : ℚ) / 10 ^ 21 ≤ n / 10 ^ k := by
    apply div_le_div₀ (Nat.cast_nonneg _) some_ power
    exact pow_le_pow_right₀ (by norm_num) places
  obtain ⟨-, high, -⟩ := contains_bounds nonzero inside
  have count : (1 : ℚ) ≤ x.significand := by exact_mod_cast significand_pos nonzero
  have half := mul_le_mul_of_nonneg_right count (two_zpow_pos x.scale).le
  have tiny : (2 : ℚ) ^ (-1022 : Int) ≤ 2 ^ (-100 : Int) :=
    zpow_le_zpow_right₀ (by norm_num) (by decide)
  refine tiny.trans ?_
  rw [value]
  norm_num at least ⊢
  linarith

/-- A number that a decimal of fifteen digits rounds to is near powers of ten like it. -/
theorem places_of_fifteen (finite : x.isFinite = true) (nonzero : x.isZero = false)
    (few : n < 10 ^ 15) (places : k ≤ 21) (inside : x.interval.Contains (n / 10 ^ k)) :
    -(k : Int) ≤ x.places ∧ x.places + k ≤ 15 ∧ x.value * 10 ^ k < 10 ^ 15 := by
  have power : (0 : ℚ) < 10 ^ k := by positivity
  have one_lt : (1 : ℚ) < 10 := by norm_num
  have ten : (10 : ℚ) ≠ 0 := by norm_num
  have bounds := places_bounds finite nonzero
  have some_ : (1 : ℚ) ≤ n := by
    have positive := pos_of_contains nonzero inside
    rw [div_pos_iff_of_pos_right power, Nat.cast_pos] at positive
    exact_mod_cast positive
  have most : (n : ℚ) + 1 ≤ 10 ^ 15 := by exact_mod_cast few
  obtain ⟨high, low⟩ := within_of_contains (normal_of_contains nonzero places inside) nonzero inside
  rw [pow_one, le_div_iff₀ power, mul_right_comm, kept] at high
  rw [pow_one, div_mul_eq_mul_div, div_le_iff₀ power, kept] at low
  have above : x.value * 10 ^ k < 10 ^ 15 := by
    by_contra beyond
    norm_num at beyond high most
    linarith
  have below : (1 : ℚ) < x.value * 10 ^ k * 10 := by
    norm_num at low ⊢
    linarith
  refine ⟨?_, ?_, above⟩
  · have power' : (10 : ℚ) ^ (-(k : Int) - 1) < 10 ^ x.places := by
      refine lt_of_le_of_lt ?_ bounds.2
      rw [zpow_sub_one₀ ten, zpow_neg, zpow_natCast, ← mul_inv, inv_le_iff_one_le_mul₀ (by positivity),
        ← mul_assoc]
      exact below.le
    have less := (zpow_lt_zpow_iff_right₀ one_lt).1 power'
    omega
  · have power' : (10 : ℚ) ^ (x.places - 1 + k) < 10 ^ (15 : Int) := by
      rw [zpow_add₀ ten, zpow_natCast]
      exact lt_of_le_of_lt (mul_le_mul_of_nonneg_right bounds.1 power.le) above
    have less := (zpow_lt_zpow_iff_right₀ one_lt).1 power'
    omega

/-- A number that a decimal of fifteen digits rounds to has no longer a shortest decimal. -/
theorem shortest_of_fifteen (finite : x.isFinite = true) (nonzero : x.isZero = false)
    (few : n < 10 ^ 15) (places : k ≤ 21) (inside : x.interval.Contains (n / 10 ^ k)) :
    x.shortest.digits ≤ 10 ^ 15 ∧ -22 ≤ x.shortest.exponent ∧ x.shortest.value < 10 ^ 15 + 1 := by
  obtain ⟨low, high, below⟩ := places_of_fifteen finite nonzero few places inside
  have normal := normal_of_contains nonzero places inside
  obtain ⟨j, grid⟩ := Int.eq_ofNat_of_zero_le
    (show 0 ≤ -(k : Int) - (x.places - (max 1 (x.places + k).toNat : Nat)) by omega)
  have same : (n : ℚ) / 10 ^ k =
      (n * 10 ^ j : Nat) * 10 ^ (x.places - (max 1 (x.places + k).toNat : Nat)) := by
    have power : (10 : ℚ) ^ (-(k : Int)) =
        10 ^ j * 10 ^ (x.places - (max 1 (x.places + k).toNat : Nat)) := by
      rw [← zpow_natCast, ← zpow_add₀ (by norm_num)]
      congr 1
      omega
    rw [div_eq_mul_inv, ← zpow_natCast, ← zpow_neg, power]
    push_cast
    ring
  rw [same] at inside
  obtain ⟨contains, digits, exponent⟩ := shortest_spec finite nonzero (by omega) (by omega) inside
  refine ⟨digits.trans (Nat.pow_le_pow_right (by decide) (by omega)), by omega, ?_⟩
  have near := (within_of_contains normal nonzero contains).2
  have power : (1 : ℚ) ≤ 10 ^ k := one_le_pow₀ (by norm_num)
  have total : x.value < 10 ^ 15 :=
    (le_mul_of_one_le_right x.value_nonneg power).trans_lt below
  rw [pow_one, kept] at near
  norm_num at near total ⊢
  linarith

end Fifteen

end Binary64

end TokenFaucet.Number
