import TokenFaucet.Proofs.Amount.Human
import TokenFaucet.Proofs.Json.FloatValue

set_option autoImplicit false

attribute [local instance (2000)] instPowNat

/-!
The amounts that payments add up to. A payment is neither too small nor too large, so a sum of payments
is never rounded to zero, and a sum that is large enough absorbs every payment: no number of them leads
beyond it, although each sum is read back from its digits before the next payment is added.
-/

namespace TokenFaucet.Ledger

open Number (Binary64 Within kept kept_pow_pos)
open Number.Binary64
open Json.NumberText (reread reread_isFinite reread_within)

/-- The number `2 ^ (k - 1022)`. -/
def powerOfTwo (k : Nat) : Binary64 :=
  .withSign false (k * 2 ^ fractionBits + 2 ^ 52)

theorem value_powerOfTwo {k : Nat} (small : k < 2046) :
    (powerOfTwo k).value = 2 ^ ((k : Int) - 1022) := by
  have bits : k * 2 ^ fractionBits + 2 ^ 52 < infinityBits := by
    have width : 2 ^ fractionBits = 2 ^ 52 := rfl
    have top : infinityBits = 2047 * 2 ^ 52 := rfl
    rw [width, top]
    omega
  have two : (2 : ℚ) ≠ 0 := by norm_num
  rw [powerOfTwo, value_withSign (by decide) (.inr (Nat.le_refl _)) bits,
    show (k : Int) - 1022 = 52 + (k - 1074) by omega, zpow_add₀ two]
  push_cast
  norm_num

/-- The amounts of payments. -/
structure IsPayment (x : Binary64) : Prop where
  finite : x.isFinite = true
  positive : x.isNegative = false
  least : 2 ^ (-848 : Int) ≤ x.value
  most : x.value ≤ 2 ^ (256 : Int)

/-- The amounts that payments add up to. -/
structure IsTotal (x : Binary64) : Prop where
  finite : x.isFinite = true
  positive : x.isNegative = false
  least : 2 ^ (-848 : Int) ≤ x.value
  most : x.value ≤ 2 ^ (320 : Int)

theorem IsPayment.isTotal {x : Binary64} (payment : IsPayment x) : IsTotal x :=
  ⟨payment.finite, payment.positive, payment.least,
    payment.most.trans (zpow_le_zpow_right₀ (by norm_num) (by decide))⟩

/-- What any amount of minor units is in whole units, however many decimal places these have. -/
theorem isPayment_toHuman {a : MinorUnits} (pos : 0 < a.toNat) (decimals : UInt8) :
    IsPayment (a.toHuman decimals) where
  finite := a.isFinite_toHuman decimals
  positive := a.isNegative_toHuman decimals
  least := MinorUnits.le_value_toHuman pos decimals
  most := a.value_toHuman_le decimals

/-- The amount that absorbs every payment. -/
def ceiling : Binary64 := powerOfTwo 1342

theorem value_ceiling : ceiling.value = 2 ^ (320 : Int) :=
  value_powerOfTwo (by decide)

theorem ceiling_isFinite : ceiling.isFinite = true := by decide

/-- Sixteen units below it. -/
def nearCeiling : Binary64 := .withSign false (ceiling.magnitude - 16)

/-- A number between the two is not read back as more than the greater. -/
theorem reread_near_ceiling : ∀ j ≤ 16,
    (reread (.withSign false (ceiling.magnitude - j))).magnitude ≤ ceiling.magnitude := by
  decide +kernel

theorem value_nearCeiling : nearCeiling.value = (2 ^ 53 - 16 : Nat) * 2 ^ (267 : Int) := by
  have bits : ceiling.magnitude - 16 = 1341 * 2 ^ fractionBits + (2 ^ 53 - 16) := by decide
  have unit_ : ((1341 : Nat) : Int) - 1074 = 267 := by decide
  rw [nearCeiling, bits, value_withSign (by decide) (.inr (by decide)) (by decide), unit_]

/-- Below both, four roundings lead to nothing above the greater. -/
theorem nearCeiling_le : nearCeiling.value ≤ 2 ^ (320 : Int) * kept ^ 4 := by
  have power : (2 : ℚ) ^ (320 : Int) = 2 ^ 53 * 2 ^ (267 : Int) := by
    rw [show (320 : Int) = (53 : Nat) + 267 by decide, zpow_add₀ (by norm_num), zpow_natCast]
  have lost : ((2 ^ 53 - 16 : Nat) : ℚ) ≤ 2 ^ 53 * kept ^ 4 := by norm_num [kept]
  calc nearCeiling.value = (2 ^ 53 - 16 : Nat) * 2 ^ (267 : Int) := value_nearCeiling
    _ ≤ 2 ^ 53 * kept ^ 4 * 2 ^ (267 : Int) := mul_le_mul_of_nonneg_right lost (two_zpow_pos 267).le
    _ = 2 ^ (320 : Int) * kept ^ 4 := by rw [power, mul_right_comm]

/-- The amount that absorbs every payment does so. -/
theorem magnitudeBits_ceiling : magnitudeBits (2 ^ 320 + 2 ^ 256) 1 = ceiling.magnitude := by
  decide +kernel

section Total

variable {x y : Binary64}

/-- What is read back of a sum of payments. -/
theorem IsTotal.reread (total : IsTotal x) : (reread x).isFinite = true ∧
    (reread x).isNegative = false ∧ Within 4 (reread x).value x.value := by
  have lowest : (2 : ℚ) ^ (-900 : Int) ≤ 2 ^ (-848 : Int) :=
    zpow_le_zpow_right₀ (by norm_num) (by decide)
  obtain ⟨finite, sign⟩ := reread_isFinite total.finite
  exact ⟨finite, sign.trans total.positive, reread_within total.finite (lowest.trans total.least)⟩

/-- Reading back leads no amount beyond the one that absorbs every payment. -/
theorem IsTotal.reread_le (total : IsTotal x) : (Json.NumberText.reread x).value ≤ 2 ^ (320 : Int) := by
  obtain ⟨-, -, rounded⟩ := total.reread
  have most := total.most
  rw [← value_ceiling] at most
  by_cases near : nearCeiling.value ≤ x.value
  · -- one of seventeen numbers
    have low := magnitude_le_of_value_le (by decide) total.finite near
    have high := magnitude_le_of_value_le total.finite ceiling_isFinite most
    rw [nearCeiling, magnitude_withSign (by decide)] at low
    obtain ⟨j, few, same⟩ : ∃ j ≤ 16, x.magnitude = ceiling.magnitude - j :=
      ⟨ceiling.magnitude - x.magnitude, by omega, by omega⟩
    have number := x.withSign_magnitude
    rw [total.positive, same] at number
    have below := reread_near_ceiling j few
    rw [number] at below
    have mono := value_mono (Json.NumberText.reread x).isNegative ceiling.isNegative below
      (magnitude_lt _)
    rwa [withSign_magnitude, withSign_magnitude, value_ceiling] at mono
  · refine le_of_mul_le_mul_right ?_ (kept_pow_pos 4)
    exact rounded.2.trans ((not_le.1 near).le.trans nearCeiling_le)

/-- A sum that is read back and to which a payment is added is one rounding away from the exact sum, and
it is a sum of payments again. -/
theorem IsTotal.add (total : IsTotal x) (payment : IsPayment y) :
    IsTotal ((Json.NumberText.reread x).add y) ∧
      Within 1 ((Json.NumberText.reread x).add y).value ((Json.NumberText.reread x).value + y.value) := by
  obtain ⟨finite, positive, -⟩ := total.reread
  obtain ⟨n, d, den, same, sum⟩ := add_of_nonneg finite payment.finite positive payment.positive
  rw [same, ← sum]
  have above : y.value ≤ (n : ℚ) / d := by
    rw [sum]
    exact le_add_of_nonneg_left (Json.NumberText.reread x).value_nonneg
  have below : (n : ℚ) / d ≤ ((2 ^ 320 + 2 ^ 256 : Nat) : ℚ) / (1 : Nat) := by
    have both := add_le_add total.reread_le payment.most
    rw [← sum] at both
    refine both.trans (le_of_eq ?_)
    norm_num
  have bits : magnitudeBits n d ≤ ceiling.magnitude := by
    rw [← magnitudeBits_ceiling]
    apply magnitudeBits_mono den Nat.one_pos
    rw [div_le_div_iff₀ (Nat.cast_pos.2 den) (Nat.cast_pos.2 Nat.one_pos)] at below
    exact_mod_cast below
  have finite_ : (ofRatio false n d).isFinite = true :=
    isFinite_ofRatio_iff.2 (Nat.lt_of_le_of_lt bits (magnitude_lt_iff.2 ceiling_isFinite))
  have lowest : (2 : ℚ) ^ (-1022 : Int) ≤ 2 ^ (-848 : Int) :=
    zpow_le_zpow_right₀ (by norm_num) (by decide)
  refine ⟨⟨finite_, isNegative_ofRatio .., ?_, ?_⟩, ?_⟩
  · exact payment.least.trans (le_value_ofRatio false payment.finite den above)
  · have mono := value_mono false ceiling.isNegative bits (magnitude_lt _)
    rwa [withSign_magnitude, value_ceiling] at mono
  · exact ofRatio_within den finite_ (lowest.trans (payment.least.trans above))

end Total

end TokenFaucet.Ledger
