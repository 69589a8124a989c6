import TokenFaucet.Proofs.Json.FloatText
import TokenFaucet.Proofs.Number.DecimalReading

set_option autoImplicit false

attribute [local instance (2000)] instPowNat

namespace TokenFaucet.Json.NumberText

open TokenFaucet.Number (Binary64 Decimal DecimalLayout)
open TokenFaucet.Number.DecimalReading (largest ofParts ofParts_isSome)

theorem gather_lt (ds : List Char) {acc : Nat} (word : acc < UInt64.size) :
    (gather acc ds).1 < UInt64.size := by
  induction ds generalizing acc with
  | nil => exact word
  | cons d ds ih =>
      rw [gather]
      split
      · next fits => exact ih fits
      · exact word

/-- What is gathered, with a zero for each digit that is left over, is not above what the digits
spell. -/
theorem gather_le (ds : List Char) (acc : Nat) :
    (gather acc ds).1 * 10 ^ (gather acc ds).2.length ≤ Nat.ofDigitChars 10 ds acc := by
  induction ds generalizing acc with
  | nil =>
      rw [gather, List.length_nil, Nat.pow_zero, Nat.mul_one]
      exact le_ofDigitChars [] acc
  | cons d ds ih =>
      rw [gather]
      split
      · rw [Nat.ofDigitChars_cons]
        exact ih _
      · dsimp only
        rw [Nat.ofDigitChars_eq_ofDigitChars_zero, Nat.mul_comm]
        exact Nat.le_add_right ..

theorem length_gather_le (ds : List Char) (acc : Nat) :
    (gather acc ds).2.length ≤ ds.length := by
  induction ds generalizing acc with
  | nil => exact Nat.le_refl _
  | cons d ds ih =>
      rw [gather]
      split
      · exact Nat.le_succ_of_le (ih _)
      · exact Nat.le_refl _

theorem ofDigitChars_lt {ds : List Char} (all : ∀ c ∈ ds, c.isDigit = true) :
    Nat.ofDigitChars 10 ds 0 < 10 ^ ds.length := by
  induction ds with
  | nil => exact Nat.one_pos
  | cons d ds ih =>
      have others := ih fun c mem => all c (List.mem_cons_of_mem _ mem)
      have first := all d (List.mem_cons_self ..)
      have digit : d.toNat - '0'.toNat ≤ 9 := by
        simp only [Char.isDigit, Bool.and_eq_true, decide_eq_true_eq] at first
        have bound : d.toNat ≤ '9'.toNat := first.2
        have nine : '9'.toNat = '0'.toNat + 9 := rfl
        omega
      rw [Nat.ofDigitChars_cons, Nat.ofDigitChars_eq_ofDigitChars_zero, List.length_cons,
        Nat.pow_succ, Nat.mul_zero, Nat.zero_add]
      have tens := Nat.mul_le_mul_left (10 ^ ds.length) digit
      omega

/-- Nineteen digits fit into a word. -/
theorem gather_of_short {ds : List Char} (all : ∀ c ∈ ds, c.isDigit = true)
    (short : ds.length ≤ 19) : gather 0 ds = (Nat.ofDigitChars 10 ds 0, []) := by
  apply gather_of_lt
  calc Nat.ofDigitChars 10 ds 0 < 10 ^ ds.length := ofDigitChars_lt all
    _ ≤ 10 ^ 19 := Nat.pow_le_pow_right (by decide) short
    _ ≤ UInt64.size := by decide

def power (t : NumberText) : Int :=
  match t.exponent with
  | none => 0
  | some (negative, ds) =>
    if negative then -(Nat.ofDigitChars 10 ds 0 : Int) else Nat.ofDigitChars 10 ds 0

def decimals (t : NumberText) : List Char :=
  t.fraction.getD []

/-- What a literal with a point or an exponent stands for, if a word holds its whole part. -/
theorem number?_eq {t : NumberText} {whole : Nat} (gathered : gather 0 t.whole = (whole, []))
    (binary : t.fraction.isSome = true ∨ t.exponent.isSome = true) :
    t.number? = (ofParts t.negative (gather whole t.decimals).1
      (-((t.decimals.length - (gather whole t.decimals).2.length : Nat) : Int) + t.power)).map
        .float := by
  obtain ⟨negative, ds, fraction, exponent⟩ := t
  dsimp only at gathered binary
  simp only [number?, gathered, decimals, power]
  match fraction, exponent with
  | none, none => simp at binary
  | none, some (sign, es) => simp
  | some fs, none => simp
  | some fs, some (sign, es) => simp

/-- A literal is read as some number unless its digits spell something beyond the largest. -/
theorem number?_isSome {t : NumberText} (all : ∀ c ∈ t.whole, c.isDigit = true)
    (short : t.whole.length ≤ 19) (binary : t.fraction.isSome = true ∨ t.exponent.isSome = true)
    (bound : 0 ≤ t.power → Nat.ofDigitChars 10 (t.whole ++ t.decimals) 0 * 10 ^ t.power.toNat ≤
      largest * 10 ^ t.decimals.length) : ∃ y, t.number? = some (.float y) := by
  have gathered := gather_of_short all short
  have word : Nat.ofDigitChars 10 t.whole 0 < UInt64.size := by
    have lt := gather_lt t.whole (show 0 < UInt64.size by decide)
    rwa [gathered] at lt
  have most := gather_le t.decimals (Nat.ofDigitChars 10 t.whole 0)
  have few := length_gather_le t.decimals (Nat.ofDigitChars 10 t.whole 0)
  have lt := gather_lt t.decimals word
  rw [← Nat.ofDigitChars_append] at most
  rw [number?_eq gathered binary]
  generalize gather (Nat.ofDigitChars 10 t.whole 0) t.decimals = g at most few lt ⊢
  obtain ⟨y, read⟩ := ofParts_isSome t.negative
    (e := -((t.decimals.length - g.2.length : Nat) : Int) + t.power) lt (by
      intro places
      have up : 0 ≤ t.power := by omega
      have total : (-((t.decimals.length - g.2.length : Nat) : Int) + t.power).toNat +
          t.decimals.length = g.2.length + t.power.toNat := by omega
      have pos : 0 < 10 ^ t.decimals.length := Nat.pow_pos (by decide)
      apply Nat.le_of_mul_le_mul_right _ pos
      rw [Nat.mul_assoc, ← Nat.pow_add, total, Nat.pow_add, ← Nat.mul_assoc]
      exact Nat.le_trans (Nat.mul_le_mul_right _ most) (bound up))
  rw [read]
  exact ⟨y, rfl⟩

section Layouts

variable (negative : Bool) {d : Decimal}

theorem atMost_of_nonneg (below : d.AtMost largest 1) (sign : 0 ≤ d.exponent) :
    d.digits * 10 ^ d.exponent.toNat ≤ largest := by
  rwa [Decimal.AtMost, Decimal.ratio, if_pos sign, Nat.mul_one, Nat.mul_one] at below

theorem atMost_of_neg (below : d.AtMost largest 1) (sign : ¬ 0 ≤ d.exponent) :
    d.digits ≤ largest * 10 ^ (-d.exponent).toNat := by
  rwa [Decimal.AtMost, Decimal.ratio, if_neg sign, Nat.mul_one] at below

section Plain

variable {digits : List Char} {e : Nat}

/-- A literal whose point stands behind all digits. -/
theorem number?_whole (all : ∀ c ∈ digits, c.isDigit = true) (short : digits.length + e ≤ 19)
    (bound : Nat.ofDigitChars 10 digits 0 * 10 ^ e ≤ largest) :
    ∃ y, (⟨negative, digits ++ List.replicate e '0', some ['0'], none⟩ : NumberText).number? =
      some (.float y) := by
  apply number?_isSome
  · intro c mem
    obtain mem | mem := List.mem_append.1 mem
    · exact all c mem
    · exact isDigit_replicate mem
  · rw [List.length_append, List.length_replicate]
    exact short
  · exact .inl rfl
  · intro _
    change Nat.ofDigitChars 10 ((digits ++ List.replicate _ '0') ++ ['0']) 0 * 1 ≤ largest * 10
    rw [Nat.ofDigitChars_append, Nat.ofDigitChars_append, Nat.ofDigitChars_replicate_zero,
      Nat.mul_one]
    change 10 * (10 ^ e * Nat.ofDigitChars 10 digits 0) + 0 ≤ largest * 10
    rw [Nat.mul_comm (10 ^ _), Nat.add_zero, Nat.mul_comm]
    exact Nat.mul_le_mul_right 10 bound

/-- A literal whose point stands among its digits. -/
theorem number?_inside (all : ∀ c ∈ digits, c.isDigit = true) (few : e < digits.length)
    (short : digits.length ≤ 19 + e) (bound : Nat.ofDigitChars 10 digits 0 ≤ largest * 10 ^ e) :
    ∃ y, (⟨negative, digits.take (digits.length - e), some (digits.drop (digits.length - e)),
      none⟩ : NumberText).number? = some (.float y) := by
  apply number?_isSome
  · exact fun c mem => all c (List.mem_of_mem_take mem)
  · dsimp only
    rw [List.length_take]
    omega
  · exact .inl rfl
  · intro _
    have count : (digits.drop (digits.length - e)).length = e := by
      rw [List.length_drop]
      omega
    change Nat.ofDigitChars 10 (digits.take _ ++ digits.drop _) 0 * 1 ≤
      largest * 10 ^ (digits.drop _).length
    rw [List.take_append_drop, Nat.mul_one, count]
    exact bound

/-- A literal whose point stands before all digits. -/
theorem number?_fraction (many : digits.length ≤ e)
    (bound : Nat.ofDigitChars 10 digits 0 ≤ largest * 10 ^ e) :
    ∃ y, (⟨negative, ['0'], some (List.replicate (e - digits.length) '0' ++ digits), none⟩ :
      NumberText).number? = some (.float y) := by
  apply number?_isSome
  · exact fun c mem => isDigit_replicate (n := 1) mem
  · exact (by decide : 1 ≤ 19)
  · exact .inl rfl
  · intro _
    have count : (List.replicate (e - digits.length) '0' ++ digits).length = e := by
      rw [List.length_append, List.length_replicate]
      omega
    change Nat.ofDigitChars 10 (['0'] ++ (List.replicate _ '0' ++ digits)) 0 * 1 ≤
      largest * 10 ^ (List.replicate _ '0' ++ digits).length
    rw [Nat.ofDigitChars_append, Nat.ofDigitChars_append, Nat.ofDigitChars_replicate_zero, count]
    change Nat.ofDigitChars 10 digits (_ * 0) * 1 ≤ _
    rw [Nat.mul_zero, Nat.mul_one]
    exact bound

end Plain

/-- A literal with the point at its place, of which sixteen digits stand before the point. -/
theorem number?_plain (below : d.AtMost largest 1)
    (short : (Nat.toDigits 10 d.digits).length + d.exponent - 1 < 16) :
    ∃ y, (plain negative (Nat.toDigits 10 d.digits) d.exponent).number? = some (.float y) := by
  have spelled : Nat.ofDigitChars 10 (Nat.toDigits 10 d.digits) 0 = d.digits :=
    Nat.ofDigitChars_ten_toDigits
  have all : ∀ c ∈ Nat.toDigits 10 d.digits, c.isDigit = true := fun c mem => isDigit_toDigits mem
  generalize Nat.toDigits 10 d.digits = digits at spelled all short ⊢
  unfold plain
  by_cases sign : 0 ≤ d.exponent
  · have bound := atMost_of_nonneg below sign
    rw [← spelled] at bound
    rw [if_pos sign]
    exact number?_whole negative all (by omega) bound
  · have bound := atMost_of_neg below sign
    rw [← spelled] at bound
    rw [if_neg sign]
    dsimp only
    split
    · next few => exact number?_inside negative all few (by omega) bound
    · next many => exact number?_fraction negative (by omega) bound

theorem power_scientific (digits : List Char) (p : Int) :
    (scientific negative digits p).power = p := by
  have exponent : (scientific negative digits p).exponent =
      some (decide (p < 0), Nat.toDigits 10 p.natAbs) := by
    match digits with
    | [] => rfl
    | [_] => rfl
    | _ :: _ :: _ => rfl
  unfold power
  rw [exponent]
  dsimp only
  rw [Nat.ofDigitChars_ten_toDigits]
  by_cases sign : p < 0
  · rw [if_pos (decide_eq_true sign)]
    omega
  · rw [if_neg (by simpa using sign)]
    omega

/-- A literal with an exponent. -/
theorem number?_scientific (below : d.AtMost largest 1) :
    ∃ y, (scientific negative (Nat.toDigits 10 d.digits)
      ((Nat.toDigits 10 d.digits).length + d.exponent - 1)).number? = some (.float y) := by
  have spelled : Nat.ofDigitChars 10 (Nat.toDigits 10 d.digits) 0 = d.digits :=
    Nat.ofDigitChars_ten_toDigits
  have all : ∀ c ∈ Nat.toDigits 10 d.digits, c.isDigit = true := fun c mem => isDigit_toDigits mem
  have notEmpty : Nat.toDigits 10 d.digits ≠ [] := Nat.toDigits_ne_nil
  generalize Nat.toDigits 10 d.digits = digits at spelled all notEmpty ⊢
  have bound : ∀ p : Int, p = digits.length + d.exponent - 1 → 0 ≤ p →
      d.digits * 10 ^ p.toNat ≤ largest * 10 ^ (digits.length - 1) := by
    intro p same up
    have pos : 0 < digits.length := List.length_pos_iff.2 notEmpty
    by_cases sign : 0 ≤ d.exponent
    · have split : p.toNat = d.exponent.toNat + (digits.length - 1) := by omega
      rw [split, Nat.pow_add, ← Nat.mul_assoc]
      exact Nat.mul_le_mul_right _ (atMost_of_nonneg below sign)
    · have split : digits.length - 1 = (-d.exponent).toNat + p.toNat := by omega
      rw [split, Nat.pow_add, ← Nat.mul_assoc]
      exact Nat.mul_le_mul_right _ (atMost_of_neg below sign)
  match digits with
  | [] => exact absurd rfl notEmpty
  | [c] =>
      apply number?_isSome
      · exact all
      · exact (by decide : 1 ≤ 19)
      · exact .inr rfl
      · intro up
        rw [power_scientific] at up ⊢
        have le := bound _ rfl up
        rw [← spelled] at le
        exact le
  | c :: e :: rest =>
      apply number?_isSome
      · intro a mem
        exact all a (by simp only [scientific, List.mem_singleton] at mem; simp [mem])
      · exact (by decide : 1 ≤ 19)
      · exact .inl rfl
      · intro up
        rw [power_scientific] at up ⊢
        have le := bound _ rfl up
        rw [← spelled] at le
        exact le

end Layouts

/-- The literal of the largest number. -/
theorem number?_largest (negative : Bool) :
    ∃ y, (scientific negative (Nat.toDigits 10 17976931348623157) 308).number? = some (.float y) := by
  cases negative with
  | false => exact ⟨.withSign false (Binary64.infinityBits - 1), by decide +kernel⟩
  | true => exact ⟨.withSign true (Binary64.infinityBits - 1), by decide +kernel⟩

/-- The literal of a finite number is read as some number. -/
theorem number?_ofBinary64 {x : Binary64} (finite : x.isFinite = true) :
    ∃ y, (ofBinary64 x).number? = some (.float y) := by
  unfold ofBinary64
  split
  · exact ⟨_, rfl⟩
  · dsimp only
    by_cases largest : x.IsLargest
    · rw [Binary64.shortest_of_isLargest largest, if_neg (by decide)]
      exact number?_largest x.isNegative
    · have below := Binary64.shortest_le_largest finite largest
      split
      · next range => exact number?_plain x.isNegative below range.2
      · exact number?_scientific x.isNegative below

/-- What the literal of a finite number is read as. -/
def reread (x : Binary64) : Binary64 :=
  match (ofBinary64 x).number? with
  | some (.float y) => y
  | some (.integer _) => x
  | none => x

theorem number?_reread {x : Binary64} (finite : x.isFinite = true) :
    (ofBinary64 x).number? = some (.float (reread x)) := by
  obtain ⟨y, read⟩ := number?_ofBinary64 finite
  rw [reread, read]

end TokenFaucet.Json.NumberText
