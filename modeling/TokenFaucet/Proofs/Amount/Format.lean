import Mathlib.Data.List.DropRight
import TokenFaucet.Amount
import TokenFaucet.Proofs.Number.PlainDecimal

set_option autoImplicit false

attribute [local instance (2000)] instPowNat

namespace TokenFaucet.MinorUnits

open Number (PlainDecimal)
open Json.NumberText (IsWhole isDigit_replicate isDigit_toDigits isWhole_toDigits)

section Padded

variable {digits : List Char} {places : Nat}

/-- The point never stands before the first digit. -/
theorem point_pos (digits : List Char) (places : Nat) : 0 < point digits places := by
  rw [point, padded, List.length_append, List.length_replicate]
  omega

theorem point_add (digits : List Char) (places : Nat) :
    point digits places + places = (padded digits places).length := by
  have pos := point_pos digits places
  unfold point at pos ⊢
  omega

theorem isDigit_padded (all : ∀ c ∈ digits, c.isDigit = true) (places : Nat) :
    ∀ c ∈ padded digits places, c.isDigit = true := by
  intro c mem
  obtain zero | own := List.mem_append.1 mem
  · exact isDigit_replicate zero
  · exact all c own

theorem ofDigitChars_padded (digits : List Char) (places : Nat) :
    Nat.ofDigitChars 10 (padded digits places) 0 = Nat.ofDigitChars 10 digits 0 := by
  rw [padded, Nat.ofDigitChars_append, Nat.ofDigitChars_replicate_zero, Nat.mul_zero]

/-- The zeros in front stop at the point. -/
theorem isWhole_take_padded (whole : IsWhole digits) :
    IsWhole ((padded digits places).take (point digits places)) := by
  have pos := point_pos digits places
  have count := point_add digits places
  refine ⟨?_, ?_⟩
  · rw [ne_eq, List.take_eq_nil_iff, not_or]
    refine ⟨Nat.ne_of_gt pos, fun empty => ?_⟩
    rw [empty, List.length_nil] at count
    omega
  · intro d rest same
    by_cases short : digits.length ≤ places
    · have lengths := congrArg List.length same
      rw [List.length_take, ← count] at lengths
      rw [padded, List.length_append, List.length_replicate] at count
      simp only [List.length_cons] at lengths
      omega
    · have unpadded : padded digits places = digits := by
        rw [padded, Nat.sub_eq_zero_of_le (by omega), List.replicate_zero, List.nil_append]
      rw [unpadded] at same
      apply whole.2 d (rest ++ digits.drop (point digits places))
      rw [← List.cons_append, ← List.cons_append, ← same, List.take_append_drop]

end Padded

section Decimal

theorem isDigit_digits (a : MinorUnits) : ∀ c ∈ a.digits, c.isDigit = true :=
  fun _ mem => isDigit_toDigits mem

/-- The digits behind the point, with the zeros at their end. -/
def behindPoint (a : MinorUnits) (places : Nat) : List Char :=
  (padded a.digits places).drop (point a.digits places)

/-- The amount as a decimal of that many places, without the zeros at the end. -/
def decimal (a : MinorUnits) (places : Nat) : PlainDecimal where
  whole := (padded a.digits places).take (point a.digits places)
  fraction := (a.behindPoint places).rdropWhile (· == '0')
  digits := by
    rw [List.all_eq_true]
    intro c mem
    apply isDigit_padded a.isDigit_digits places
    obtain before | behind := List.mem_append.1 mem
    · exact List.mem_of_mem_take before
    · exact List.mem_of_mem_drop ((List.rdropWhile_prefix _ _).subset behind)
  nonempty := fun empty =>
    (isWhole_take_padded (isWhole_toDigits a.toNat)).1 (List.append_eq_nil_iff.1 empty).1

theorem length_behindPoint (a : MinorUnits) (places : Nat) : (a.behindPoint places).length = places := by
  have count := point_add a.digits places
  rw [behindPoint, List.length_drop]
  omega

/-- What is left out are zeros. -/
theorem fraction_append (a : MinorUnits) (places : Nat) :
    ∃ k, (a.decimal places).fraction.length + k = places ∧
      (a.decimal places).fraction ++ List.replicate k '0' = a.behindPoint places := by
  have split : (a.decimal places).fraction ++ (a.behindPoint places).rtakeWhile (· == '0') =
      a.behindPoint places := List.rdropWhile_append_rtakeWhile
  have zeros : (a.behindPoint places).rtakeWhile (· == '0') =
      List.replicate ((a.behindPoint places).rtakeWhile (· == '0')).length '0' := by
    apply List.eq_replicate_of_mem
    intro c mem
    have zero := List.mem_rtakeWhile_imp mem
    exact beq_iff_eq.1 zero
  refine ⟨((a.behindPoint places).rtakeWhile (· == '0')).length, ?_, ?_⟩
  · rw [← List.length_append, split, length_behindPoint]
  · rw [← zeros, split]

theorem canonical_decimal (a : MinorUnits) (places : Nat) : (a.decimal places).Canonical where
  whole := isWhole_take_padded (isWhole_toDigits a.toNat)
  fraction := by
    intro last
    have nonempty : (a.decimal places).fraction ≠ [] := by
      intro empty
      rw [empty] at last
      cases last
    rw [List.getLast?_eq_some_getLast nonempty, Option.some_inj] at last
    exact List.rdropWhile_last_not _ _ nonempty (beq_iff_eq.2 last)

theorem value_decimal (a : MinorUnits) (places : Nat) :
    (a.decimal places).value = a.toNat / (10 : ℚ) ^ places := by
  obtain ⟨k, count, zeros⟩ := a.fraction_append places
  have spelled : (a.decimal places).numerator * 10 ^ k = a.toNat := by
    have all : (a.decimal places).whole ++ (a.decimal places).fraction ++ List.replicate k '0' =
        padded a.digits places := by
      rw [List.append_assoc, zeros]
      exact List.take_append_drop _ _
    have number := ofDigitChars_padded a.digits places
    rw [← all, Nat.ofDigitChars_append, Nat.ofDigitChars_replicate_zero, digits,
      Nat.ofDigitChars_ten_toDigits, Nat.mul_comm] at number
    exact number
  have ten : (10 : ℚ) ^ k ≠ 0 := pow_ne_zero k (by norm_num)
  have scaled : (10 : ℚ) ^ places = 10 ^ (a.decimal places).fraction.length * 10 ^ k := by
    rw [← pow_add, count]
  rw [PlainDecimal.value, PlainDecimal.denominator, ← spelled, scaled]
  push_cast
  rw [mul_div_mul_right _ _ ten]

theorem withPoint_digits (a : MinorUnits) (places : Nat) :
    withPoint a.digits places = (a.decimal places).text := rfl

/-- Zero has the text that its digits would have. -/
theorem format_eq (a : MinorUnits) (decimals : UInt8) :
    a.format decimals = String.ofList (a.decimal decimals.toNat).text := by
  unfold format
  split
  · next zero =>
      let none : PlainDecimal := ⟨['0'], [], rfl, by decide⟩
      have canonical : none.Canonical := ⟨⟨List.cons_ne_nil _ _, fun _ _ same => nomatch same⟩, nofun⟩
      have same : (a.decimal decimals.toNat).value = none.value := by
        rw [value_decimal, zero, Nat.cast_zero, zero_div]
        exact (zero_div _).symm
      rw [(a.canonical_decimal decimals.toNat).eq canonical same]
      rfl
  · rw [withPoint_digits]

theorem read?_format (a : MinorUnits) (decimals : UInt8) :
    PlainDecimal.read? (a.format decimals).toList = some (a.decimal decimals.toNat) := by
  rw [format_eq, String.toList_ofList, PlainDecimal.read?_text]

theorem fraction_length_le (a : MinorUnits) (places : Nat) :
    (a.decimal places).fraction.length ≤ places := by
  obtain ⟨k, count, -⟩ := a.fraction_append places
  omega

end Decimal

/-- The text of an amount is split within its padded digits, and it is the one canonical decimal that
is worth the amount in whole units, which has at most as many places as the currency. Different amounts
have different texts. -/
theorem format_canonical (a : MinorUnits) (decimals : UInt8) :
    (∀ c ∈ padded a.digits decimals.toNat, c.isDigit = true) ∧
    0 < point a.digits decimals.toNat ∧
    point a.digits decimals.toNat + decimals.toNat = (padded a.digits decimals.toNat).length ∧
    (∃ t : PlainDecimal, a.format decimals = String.ofList t.text ∧
      PlainDecimal.read? (a.format decimals).toList = some t ∧
      t.Canonical ∧ t.fraction.length ≤ decimals.toNat ∧
      t.value * 10 ^ decimals.toNat = a.toNat ∧
      ∀ t' : PlainDecimal, t'.Canonical → t'.value * 10 ^ decimals.toNat = a.toNat → t' = t) ∧
    ∀ b : MinorUnits, a.format decimals = b.format decimals → a = b := by
  have ten : (10 : ℚ) ^ decimals.toNat ≠ 0 := pow_ne_zero _ (by norm_num)
  have worth (a : MinorUnits) : (a.decimal decimals.toNat).value * 10 ^ decimals.toNat = a.toNat := by
    rw [value_decimal, div_mul_cancel₀ _ ten]
  refine ⟨isDigit_padded a.isDigit_digits _, point_pos .., point_add .., ?_, fun b same => ?_⟩
  · refine ⟨a.decimal decimals.toNat, a.format_eq decimals, a.read?_format decimals,
      a.canonical_decimal _, a.fraction_length_le _, worth a, fun t' canonical value => ?_⟩
    apply canonical.eq (a.canonical_decimal _)
    exact mul_right_cancel₀ ten (value.trans (worth a).symm)
  · have read := a.read?_format decimals
    rw [same, b.read?_format, Option.some_inj] at read
    have numbers : (a.toNat : ℚ) = b.toNat := by
      calc (a.toNat : ℚ) = (a.decimal decimals.toNat).value * 10 ^ decimals.toNat := (worth a).symm
        _ = (b.decimal decimals.toNat).value * 10 ^ decimals.toNat := by rw [read]
        _ = b.toNat := worth b
    cases a
    cases b
    congr
    exact_mod_cast numbers

example : (⟨1050000, by decide⟩ : MinorUnits).format 6 = "1.05" := by decide

end TokenFaucet.MinorUnits
