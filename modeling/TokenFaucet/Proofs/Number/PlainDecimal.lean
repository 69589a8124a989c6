import Mathlib.Data.List.TakeWhile
import TokenFaucet.Number.PlainDecimal
import TokenFaucet.Proofs.Json.FloatReading
import TokenFaucet.Proofs.Number.Numeral

set_option autoImplicit false

attribute [local instance (2000)] instPowNat

namespace TokenFaucet.Number.PlainDecimal

open Json.NumberText (IsWhole ofDigitChars_lt)
open Numeral (digitValue digitValue_lt digitValue_injective digits_ofDigitChars map_digitValue_inj
  ofDigitChars_eq_ofDigits)

/-- The text of a decimal. Without a fraction it has no point. -/
def text (t : PlainDecimal) : List Char :=
  if t.fraction.isEmpty then t.whole else t.whole ++ '.' :: t.fraction

/-- What a decimal is worth. -/
def value (t : PlainDecimal) : ℚ :=
  t.numerator / t.denominator

/-- A decimal without zeros that could be left out. -/
structure Canonical (t : PlainDecimal) : Prop where
  whole : IsWhole t.whole
  fraction : t.fraction.getLast? ≠ some '0'

section Text

variable {whole fraction : List Char} {t t' : PlainDecimal}

theorem ofParts?_parts (t : PlainDecimal) : ofParts? t.whole t.fraction = some t :=
  dif_pos ⟨t.digits, t.nonempty⟩

theorem isDigit_whole (t : PlainDecimal) : ∀ c ∈ t.whole, c.isDigit = true :=
  fun c mem => List.all_eq_true.1 t.digits c (List.mem_append_left _ mem)

theorem isDigit_fraction (t : PlainDecimal) : ∀ c ∈ t.fraction, c.isDigit = true :=
  fun c mem => List.all_eq_true.1 t.digits c (List.mem_append_right _ mem)

theorem read?_text (t : PlainDecimal) : read? t.text = some t := by
  have noPoint : ∀ c ∈ t.whole, (c != '.') = true := by
    intro c mem
    rw [bne_iff_ne]
    rintro rfl
    exact absurd (t.isDigit_whole '.' mem) (by decide)
  have point : ¬ ('.' != '.') = true := by decide
  have parts := t.ofParts?_parts
  unfold text read?
  cases fraction : t.fraction with
  | nil =>
      rw [fraction] at parts
      rw [List.isEmpty_nil, if_pos rfl, List.dropWhile_eq_nil_iff.2 noPoint]
      exact parts
  | cons c rest =>
      have behind : ('.' :: c :: rest).dropWhile (fun d => d != '.') = '.' :: c :: rest :=
        List.dropWhile_cons_of_neg point
      have before : ('.' :: c :: rest).takeWhile (fun d => d != '.') = [] :=
        List.takeWhile_cons_of_neg point
      rw [fraction] at parts
      rw [List.isEmpty_cons, if_neg Bool.false_ne_true, List.dropWhile_append_of_pos noPoint, behind,
        List.takeWhile_append_of_pos noPoint, before, List.append_nil]
      exact parts

end Text

section Canonical

variable {t t' : PlainDecimal}

theorem numerator_eq (t : PlainDecimal) :
    t.numerator = Nat.ofDigitChars 10 t.whole 0 * t.denominator + Nat.ofDigitChars 10 t.fraction 0 := by
  rw [numerator, denominator, Nat.ofDigitChars_append, Nat.ofDigitChars_eq_ofDigitChars_zero,
    Nat.mul_comm]

theorem value_eq_iff :
    t.value = t'.value ↔ t.numerator * t'.denominator = t'.numerator * t.denominator := by
  have den (t : PlainDecimal) : (t.denominator : ℚ) ≠ 0 :=
    Nat.cast_ne_zero.2 (Nat.ne_of_gt (Nat.pow_pos (by decide)))
  rw [value, value, div_eq_div_iff (den t) (den t')]
  exact_mod_cast Iff.rfl

/-- The last digit of a fraction is the last of its number. -/
theorem numerator_mod_ten {init : List Char} {c : Char} (last : t.fraction = init ++ [c]) :
    t.numerator % 10 = digitValue c := by
  have digit := digitValue_lt (t.isDigit_fraction c (by simp [last]))
  rw [numerator, last, ← List.append_assoc, Nat.ofDigitChars_append, Nat.ofDigitChars_cons,
    Nat.ofDigitChars_nil]
  rw [digitValue] at digit ⊢
  omega

/-- A canonical fraction is not longer than another one of the same worth. -/
theorem Canonical.length_le (canonical : t.Canonical) (same : t.value = t'.value) :
    t.fraction.length ≤ t'.fraction.length := by
  by_contra longer
  rw [value_eq_iff, denominator, denominator] at same
  obtain ⟨k, more⟩ : ∃ k, t.fraction.length = t'.fraction.length + (k + 1) :=
    ⟨t.fraction.length - t'.fraction.length - 1, by omega⟩
  have scaled : t.numerator = t'.numerator * 10 ^ k * 10 := by
    apply Nat.eq_of_mul_eq_mul_right (Nat.pow_pos (by decide) : 0 < 10 ^ t'.fraction.length)
    rw [same, more, Nat.pow_add, Nat.pow_succ]
    ac_rfl
  obtain empty | ⟨init, c, last⟩ := List.eq_nil_or_concat t.fraction
  · rw [empty, List.length_nil] at more
    omega
  · rw [List.concat_eq_append] at last
    have ends := numerator_mod_ten last
    have zero : c = '0' := by
      apply digitValue_injective (t.isDigit_fraction c (by simp [last])) (by decide)
      rw [← ends, scaled, Nat.mul_mod_left]
      rfl
    apply canonical.fraction
    rw [last, zero, List.getLast?_append_of_ne_nil _ (by simp)]
    rfl

/-- Whole parts are determined by their numbers. -/
theorem whole_eq {ds ds' : List Char} (whole : IsWhole ds) (whole' : IsWhole ds')
    (digits : ∀ c ∈ ds, c.isDigit = true) (digits' : ∀ c ∈ ds', c.isDigit = true)
    (same : Nat.ofDigitChars 10 ds 0 = Nat.ofDigitChars 10 ds' 0) : ds = ds' := by
  have significant {ds : List Char} (whole : IsWhole ds) :
      ds = ['0'] ∧ ds.dropWhile (· == '0') = [] ∨ ds.dropWhile (· == '0') = ds := by
    obtain ⟨nonempty, leading⟩ := whole
    cases ds with
    | nil => exact absurd rfl nonempty
    | cons c rest =>
        by_cases zero : c = '0'
        · left
          subst zero
          cases rest with
          | nil => exact ⟨rfl, rfl⟩
          | cons d rest => exact absurd rfl (leading d rest)
        · exact .inr (List.dropWhile_cons_of_neg (by simpa using zero))
  have tail : ds.dropWhile (· == '0') = ds'.dropWhile (· == '0') := by
    rw [← Nat.digits_inj_iff (b := 10), digits_ofDigitChars digits, digits_ofDigitChars digits',
      List.reverse_inj] at same
    apply (map_digitValue_inj _ _).1 same
    · exact fun c mem => digits c ((List.dropWhile_sublist _).subset mem)
    · exact fun c mem => digits' c ((List.dropWhile_sublist _).subset mem)
  obtain ⟨zero, none⟩ | all := significant whole <;>
    obtain ⟨zero', none'⟩ | all' := significant whole'
  · rw [zero, zero']
  · rw [none, all'] at tail
    exact absurd tail.symm whole'.1
  · rw [all, none'] at tail
    exact absurd tail whole.1
  · rw [← all, ← all', tail]

/-- Digits are determined by their number if their count is known. -/
theorem fraction_eq {ds ds' : List Char} (digits : ∀ c ∈ ds, c.isDigit = true)
    (digits' : ∀ c ∈ ds', c.isDigit = true) (count : ds.length = ds'.length)
    (same : Nat.ofDigitChars 10 ds 0 = Nat.ofDigitChars 10 ds' 0) : ds = ds' := by
  have small {ds : List Char} (digits : ∀ c ∈ ds, c.isDigit = true) :
      ∀ d ∈ (ds.map digitValue).reverse, d < 10 := by
    intro d mem
    obtain ⟨c, among, rfl⟩ := List.mem_map.1 (List.mem_reverse.1 mem)
    exact digitValue_lt (digits c among)
  rw [ofDigitChars_eq_ofDigits, ofDigitChars_eq_ofDigits] at same
  have lists := Nat.ofDigits_inj_of_len_eq (by decide) (by simpa using count) (small digits)
    (small digits') same
  exact (map_digitValue_inj digits digits').1 (List.reverse_inj.1 lists)

/-- Of the decimals that are worth the same only one is canonical. -/
theorem Canonical.eq (canonical : t.Canonical) (canonical' : t'.Canonical)
    (same : t.value = t'.value) : t = t' := by
  have count := Nat.le_antisymm (canonical.length_le same) (canonical'.length_le same.symm)
  have den : t.denominator = t'.denominator := by rw [denominator, denominator, count]
  have pos : 0 < t.denominator := Nat.pow_pos (by decide)
  have low := ofDigitChars_lt t.isDigit_fraction
  have low' := ofDigitChars_lt t'.isDigit_fraction
  rw [← denominator] at low low'
  rw [value_eq_iff, ← den] at same
  have numbers := Nat.eq_of_mul_eq_mul_right pos same
  rw [numerator_eq, numerator_eq, ← den] at numbers
  rw [← den] at low'
  have wholes : Nat.ofDigitChars 10 t.whole 0 = Nat.ofDigitChars 10 t'.whole 0 := by
    have quotients := congrArg (· / t.denominator) numbers
    rwa [Nat.mul_comm, Nat.mul_add_div pos, Nat.mul_comm, Nat.mul_add_div pos,
      Nat.div_eq_of_lt low, Nat.div_eq_of_lt low', Nat.add_zero, Nat.add_zero] at quotients
  have whole := whole_eq canonical.whole canonical'.whole t.isDigit_whole t'.isDigit_whole wholes
  rw [wholes] at numbers
  have fraction := fraction_eq t.isDigit_fraction t'.isDigit_fraction count
    (Nat.add_left_cancel numbers)
  cases t
  cases t'
  cases whole
  cases fraction
  rfl

end Canonical

end TokenFaucet.Number.PlainDecimal
