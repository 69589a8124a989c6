import TokenFaucet.Proofs.Json.FloatReading
import TokenFaucet.Proofs.Number.ReadBack

set_option autoImplicit false

attribute [local instance (2000)] instPowNat

namespace TokenFaucet.Json.NumberText

open TokenFaucet.Number
open TokenFaucet.Number.DecimalReading (ofParts)

/-- What digits and a power of ten of a literal are to the decimal that is written: its own, or a zero
behind the point of a whole number is among the digits. -/
inductive Spells (d : Decimal) : Nat → Int → Prop where
  | own : Spells d d.digits d.exponent
  | whole {k : Nat} (exponent : d.exponent = k) : Spells d (d.digits * 10 ^ k * 10) (-1)

theorem Spells.value {d : Decimal} {c : Nat} {e : Int} (spells : Spells d c e) :
    (c : ℚ) * 10 ^ e = d.value := by
  cases spells with
  | own => rfl
  | @whole k exponent =>
      rw [Decimal.value, exponent, zpow_natCast]
      push_cast
      norm_num
      ring

/-- What a literal whose digits a word holds stands for. -/
theorem number?_of_word {t : NumberText} {c : Nat}
    (spelled : Nat.ofDigitChars 10 (t.whole ++ t.decimals) 0 = c) (word : c < UInt64.size)
    (binary : t.fraction.isSome = true ∨ t.exponent.isSome = true) :
    t.number? = (ofParts t.negative c (-(t.decimals.length : Int) + t.power)).map .float := by
  rw [← spelled, Nat.ofDigitChars_append] at word
  have gathered := gather_of_lt (Nat.lt_of_le_of_lt (le_ofDigitChars _ _) word)
  have decimals := gather_of_lt word
  rw [number?_eq gathered binary, decimals, ← Nat.ofDigitChars_append, spelled]
  rfl

section Layouts

variable (negative : Bool) {digits : List Char} {e : Nat} {c : Nat}

/-- A literal whose point stands behind all digits. -/
theorem number?_whole_eq (spelled : Nat.ofDigitChars 10 digits 0 = c)
    (word : c * 10 ^ e * 10 < UInt64.size) :
    (⟨negative, digits ++ List.replicate e '0', some ['0'], none⟩ : NumberText).number? =
      (ofParts negative (c * 10 ^ e * 10) (-1)).map .float := by
  refine number?_of_word ?_ word (.inl rfl)
  change Nat.ofDigitChars 10 ((digits ++ List.replicate e '0') ++ ['0']) 0 = _
  rw [Nat.ofDigitChars_append, Nat.ofDigitChars_append, Nat.ofDigitChars_replicate_zero, spelled]
  change 10 * (10 ^ e * c) + 0 = c * 10 ^ e * 10
  rw [Nat.add_zero, Nat.mul_comm, Nat.mul_comm (10 ^ e)]

/-- A literal whose point stands among its digits. -/
theorem number?_inside_eq (spelled : Nat.ofDigitChars 10 digits 0 = c) (word : c < UInt64.size)
    (few : e < digits.length) :
    (⟨negative, digits.take (digits.length - e), some (digits.drop (digits.length - e)),
      none⟩ : NumberText).number? = (ofParts negative c (-(e : Int))).map .float := by
  have count : (digits.drop (digits.length - e)).length = e := by
    rw [List.length_drop]
    omega
  refine (number?_of_word ?_ word (.inl rfl)).trans ?_
  · change Nat.ofDigitChars 10 (digits.take _ ++ digits.drop _) 0 = c
    rw [List.take_append_drop, spelled]
  · change (ofParts negative c (-((digits.drop _).length : Int) + 0)).map _ = _
    rw [count, Int.add_zero]

/-- A literal whose point stands before all digits. -/
theorem number?_fraction_eq (spelled : Nat.ofDigitChars 10 digits 0 = c) (word : c < UInt64.size)
    (many : digits.length ≤ e) :
    (⟨negative, ['0'], some (List.replicate (e - digits.length) '0' ++ digits), none⟩ :
      NumberText).number? = (ofParts negative c (-(e : Int))).map .float := by
  have count : (List.replicate (e - digits.length) '0' ++ digits).length = e := by
    rw [List.length_append, List.length_replicate]
    omega
  refine (number?_of_word ?_ word (.inl rfl)).trans ?_
  · change Nat.ofDigitChars 10 (['0'] ++ (List.replicate _ '0' ++ digits)) 0 = c
    rw [Nat.ofDigitChars_append, Nat.ofDigitChars_append, Nat.ofDigitChars_replicate_zero]
    change Nat.ofDigitChars 10 digits (_ * 0) = c
    rw [Nat.mul_zero, spelled]
  · change (ofParts negative c (-((List.replicate _ '0' ++ digits).length : Int) + 0)).map _ = _
    rw [count, Int.add_zero]

/-- A literal with an exponent. -/
theorem number?_scientific_eq (spelled : Nat.ofDigitChars 10 digits 0 = c) (word : c < UInt64.size)
    (notEmpty : digits ≠ []) (e : Int) :
    (scientific negative digits (digits.length + e - 1)).number? =
      (ofParts negative c e).map .float := by
  match digits with
  | [] => exact absurd rfl notEmpty
  | [d] =>
      refine (number?_of_word (c := c) ?_ word (.inr rfl)).trans ?_
      · exact spelled
      rw [power_scientific]
      congr 2
      change -((0 : Nat) : Int) + (((0 + 1 : Nat) : Int) + e - 1) = e
      omega
  | d :: d' :: rest =>
      refine (number?_of_word (c := c) ?_ word (.inl rfl)).trans ?_
      · exact spelled
      rw [power_scientific]
      congr 2
      change -((rest.length + 1 : Nat) : Int) + (((rest.length + 1 + 1 : Nat) : Int) + e - 1) = e
      omega

end Layouts

/-- What the literal of a number other than zero stands for. -/
theorem number?_eq_ofParts {x : Binary64} (finite : x.isFinite = true) (nonzero : x.isZero = false) :
    ∃ c e, Spells x.shortest c e ∧ c < UInt64.size ∧
      (ofBinary64 x).number? = (ofParts x.isNegative c e).map .float := by
  have few := (x.shortest_contains finite nonzero).2
  have word : x.shortest.digits < UInt64.size := Nat.lt_of_le_of_lt few (by decide)
  have spelled : Nat.ofDigitChars 10 (Nat.toDigits 10 x.shortest.digits) 0 = x.shortest.digits :=
    Nat.ofDigitChars_ten_toDigits
  have all : ∀ d ∈ Nat.toDigits 10 x.shortest.digits, d.isDigit = true :=
    fun d mem => isDigit_toDigits mem
  have notEmpty : Nat.toDigits 10 x.shortest.digits ≠ [] := Nat.toDigits_ne_nil
  have same := @Spells.own x.shortest
  unfold ofBinary64
  rw [nonzero, if_neg (by decide)]
  dsimp only
  generalize Nat.toDigits 10 x.shortest.digits = digits at spelled all notEmpty ⊢
  split
  · next range =>
      unfold plain
      split
      · next sign =>
          obtain ⟨k, exponent⟩ := Int.eq_ofNat_of_zero_le sign
          have below : digits.length + k ≤ 16 := by
            have bound := range.2
            rw [exponent] at bound
            simp only [DecimalLayout.json] at bound
            omega
          have short : x.shortest.digits * 10 ^ k < 10 ^ 16 := by
            have lt := ofDigitChars_lt all
            rw [spelled] at lt
            calc x.shortest.digits * 10 ^ k < 10 ^ digits.length * 10 ^ k :=
                  Nat.mul_lt_mul_of_pos_right lt (Nat.pow_pos (by decide))
              _ = 10 ^ (digits.length + k) := (Nat.pow_add ..).symm
              _ ≤ 10 ^ 16 := Nat.pow_le_pow_right (by decide) below
          have word' : x.shortest.digits * 10 ^ k * 10 < UInt64.size := by
            have size : 10 ^ 16 * 10 < UInt64.size := by decide
            omega
          rw [exponent, Int.toNat_natCast]
          exact ⟨_, _, .whole exponent, word', number?_whole_eq x.isNegative spelled word'⟩
      · next sign =>
          obtain ⟨k, opposite⟩ := Int.eq_ofNat_of_zero_le (show 0 ≤ -x.shortest.exponent by omega)
          have exponent : x.shortest.exponent = -(k : Int) := by omega
          rw [opposite, Int.toNat_natCast]
          refine ⟨_, _, same, word, ?_⟩
          rw [exponent]
          dsimp only
          split
          · next inside => exact number?_inside_eq x.isNegative spelled word inside
          · next before => exact number?_fraction_eq x.isNegative spelled word (Nat.le_of_not_lt before)
  · exact ⟨_, _, same, word, number?_scientific_eq x.isNegative spelled word notEmpty _⟩

theorem reread_zero (negative : Bool) :
    reread (Binary64.withSign negative 0) = Binary64.withSign negative 0 := by
  cases negative with
  | false => decide +kernel
  | true => decide +kernel

/-- A zero is read back as it is. -/
theorem reread_of_isZero {x : Binary64} (zero : x.isZero = true) : reread x = x := by
  have same := x.withSign_magnitude
  rw [Binary64.magnitude_of_isZero zero] at same
  rw [← same]
  exact reread_zero x.isNegative

section Reread

variable {x : Binary64}

theorem ofParts_reread {c : Nat} {e : Int} (finite : x.isFinite = true)
    (read : (ofBinary64 x).number? = (ofParts x.isNegative c e).map .float) :
    ofParts x.isNegative c e = some (reread x) := by
  rw [number?_reread finite] at read
  obtain ⟨y, same, float⟩ := Option.map_eq_some_iff.1 read.symm
  cases float
  exact same

/-- What is read back is finite and has the sign of what was written. -/
theorem reread_isFinite (finite : x.isFinite = true) :
    (reread x).isFinite = true ∧ (reread x).isNegative = x.isNegative := by
  cases zero : x.isZero with
  | true =>
      rw [reread_of_isZero zero]
      exact ⟨finite, rfl⟩
  | false =>
      obtain ⟨c, e, -, word, read⟩ := number?_eq_ofParts finite zero
      exact DecimalReading.ofParts_isFinite word (ofParts_reread finite read)

/-- Seventeen digits that are not too small have a power of ten that is read in one step. -/
theorem lowest_exponent {d : Decimal} (few : d.digits ≤ 10 ^ 17)
    (least : 2 ^ (-901 : Int) ≤ d.value) : -(DecimalReading.largestPower : Int) ≤ d.exponent := by
  by_contra below
  have power : (10 : ℚ) ^ d.exponent ≤ 10 ^ (-309 : Int) := by
    apply zpow_le_zpow_right₀ (by norm_num)
    have largest : DecimalReading.largestPower = 308 := rfl
    omega
  have digits : (d.digits : ℚ) ≤ 10 ^ (17 : Int) := by exact_mod_cast few
  have most : d.value ≤ 10 ^ (17 : Int) * 10 ^ (-309 : Int) :=
    mul_le_mul digits power (ten_zpow_pos _).le (ten_zpow_pos _).le
  have gap : (10 : ℚ) ^ (-292 : Int) < 2 ^ (-901 : Int) := by
    rw [zpow_neg, zpow_neg, inv_lt_inv₀ (ten_zpow_pos _) (Binary64.two_zpow_pos _)]
    have numbers : 2 ^ 901 < 10 ^ 292 := by decide +kernel
    exact_mod_cast numbers
  rw [← zpow_add₀ (by norm_num)] at most
  exact absurd (least.trans most) (not_le.2 gap)

/-- What is read back is at most four roundings away: the decimal, its digits, the power of ten and
their product or quotient. -/
theorem reread_within (finite : x.isFinite = true) (normal : 2 ^ (-900 : Int) ≤ x.value) :
    Within 4 (reread x).value x.value := by
  have nonzero := Binary64.isZero_of_pos ((Binary64.two_zpow_pos _).trans_le normal)
  obtain ⟨c, e, spells, word, read⟩ := number?_eq_ofParts finite nonzero
  obtain ⟨inside, few⟩ := x.shortest_contains finite nonzero
  have lowest : (2 : ℚ) ^ (-1022 : Int) ≤ 2 ^ (-900 : Int) :=
    zpow_le_zpow_right₀ (by norm_num) (by decide)
  have near := Binary64.within_of_contains (lowest.trans normal) nonzero inside
  have least : (2 : ℚ) ^ (-901 : Int) ≤ x.shortest.value := by
    have half : (2 : ℚ) ^ (-901 : Int) ≤ 2 ^ (-900 : Int) * kept ^ 1 := by
      rw [show (-901 : Int) = -900 + -1 by decide, zpow_add₀ (by norm_num)]
      exact mul_le_mul_of_nonneg_left (by norm_num [kept]) (Binary64.two_zpow_pos _).le
    exact half.trans ((mul_le_mul_of_nonneg_right normal (kept_pow_pos 1).le).trans near.1)
  have tiny : (2 : ℚ) ^ (-1000 : Int) ≤ 2 ^ (-901 : Int) :=
    zpow_le_zpow_right₀ (by norm_num) (by decide)
  have exponent : -(DecimalReading.largestPower : Int) ≤ e := by
    cases spells with
    | own => exact lowest_exponent few least
    | whole => decide
  rw [← spells.value] at near least
  have pos : 0 < c := by
    have positive := (Binary64.two_zpow_pos _).trans_le least
    rw [mul_pos_iff_of_pos_right (ten_zpow_pos e), Nat.cast_pos] at positive
    exact positive
  exact (DecimalReading.ofParts_within pos word exponent (tiny.trans least)
    (ofParts_reread finite read)).trans near

/-- Fifteen digits are a number, also with a zero behind the point, and so is their power of ten. -/
theorem Spells.exact {d : Decimal} {c : Nat} {e : Int} (spells : Spells d c e)
    (digits : d.digits ≤ 10 ^ 15) (lowest : -22 ≤ d.exponent) (below : d.value < 10 ^ 15 + 1)
    (pos : 0 < c) : Binary64.Representable c ∧ e.natAbs ≤ 22 := by
  rw [← spells.value] at below
  cases spells with
  | own =>
      refine ⟨⟨d.digits, 0, digits.trans_lt (by decide), by decide, by norm_num⟩, ?_⟩
      have one : (1 : ℚ) ≤ d.digits := by exact_mod_cast pos
      have power : (10 : ℚ) ^ d.exponent < 10 ^ (16 : Int) := by
        have least := le_mul_of_one_le_left (ten_zpow_pos d.exponent).le one
        refine least.trans_lt (below.trans ?_)
        norm_num
      have highest := (zpow_lt_zpow_iff_right₀ (by norm_num)).1 power
      omega
  | @whole k exponent =>
      have total : d.digits * 10 ^ k < 10 ^ 15 + 1 := by
        have value : ((d.digits * 10 ^ k : Nat) : ℚ) < 10 ^ 15 + 1 := by
          rw [Nat.cast_mul _ 10, zpow_neg_one, mul_assoc] at below
          norm_num at below ⊢
          exact below
        exact_mod_cast value
      refine ⟨⟨d.digits * 10 ^ k * 5, 1, by omega, by decide, ?_⟩, by decide⟩
      push_cast
      ring

/-- A number that fifteen digits name is read back as it is. -/
theorem reread_of_fifteen {n k : Nat} (finite : x.isFinite = true) (few : n < 10 ^ 15)
    (places : k ≤ 21) (inside : x.interval.Contains (n / 10 ^ k)) : reread x = x := by
  cases zero : x.isZero with
  | true => exact reread_of_isZero zero
  | false =>
      obtain ⟨digits, lowest, below⟩ := Binary64.shortest_of_fifteen finite zero few places inside
      obtain ⟨c, e, spells, word, read⟩ := number?_eq_ofParts finite zero
      obtain ⟨contains, -⟩ := x.shortest_contains finite zero
      rw [← spells.value] at contains
      have pos : 0 < c := by
        have positive := Binary64.pos_of_contains zero contains
        rw [mul_pos_iff_of_pos_right (ten_zpow_pos e), Nat.cast_pos] at positive
        exact positive
      obtain ⟨representable, small⟩ := spells.exact digits lowest below pos
      exact DecimalReading.eq_of_ofParts finite zero contains word representable small
        (ofParts_reread finite read)

end Reread

end TokenFaucet.Json.NumberText
