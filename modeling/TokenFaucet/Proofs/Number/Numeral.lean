import Mathlib.Data.Nat.Digits.Lemmas
import TokenFaucet.Number.Numeral
import TokenFaucet.Proofs.Json.NumberText

set_option autoImplicit false

namespace TokenFaucet.Number.Numeral

open TokenFaucet.Json.NumberText (le_ofDigitChars)

/-- The digits of a numeral: a plus sign in front is none of them unless it stands alone. -/
def unsigned (text : String) : List Char :=
  match text.toList with
  | '+' :: c :: rest => c :: rest
  | cs => cs

/-- The digits of a numeral from the first that is not zero. -/
def significant (text : String) : List Char :=
  (unsigned text).dropWhile (· == '0')

/-- What a digit stands for. -/
def digitValue (c : Char) : Nat :=
  c.toNat - '0'.toNat

variable {bound n : Nat} {text text' : String} {cs ds : List Char}

theorem digitValue_lt {c : Char} (digit : c.isDigit = true) : digitValue c < 10 := by
  have range := Char.isDigit_iff_toNat.1 digit
  have zero : '0'.toNat = 48 := rfl
  have nine : '9'.toNat = 57 := rfl
  rw [digitValue]
  omega

theorem digitValue_injective {c d : Char} (digit : c.isDigit = true) (digit' : d.isDigit = true)
    (same : digitValue c = digitValue d) : c = d := by
  have range := Char.isDigit_iff_toNat.1 digit
  have range' := Char.isDigit_iff_toNat.1 digit'
  rw [digitValue, digitValue] at same
  apply Char.toNat_inj.1
  omega

/-- Digits are read below a bound if the number is below it: no part of it is larger than the whole. -/
theorem digits_eq_ok_iff {acc : Nat} (below : acc < bound) :
    digits bound acc cs = .ok n ↔
      (∀ c ∈ cs, c.isDigit = true) ∧ Nat.ofDigitChars 10 cs acc = n ∧ n < bound := by
  induction cs generalizing acc with
  | nil =>
      simp only [digits, Except.ok.injEq, List.not_mem_nil, false_implies, implies_true, true_and,
        Nat.ofDigitChars_nil]
      constructor
      · intro same
        exact ⟨same, same ▸ below⟩
      · exact And.left
  | cons c rest ih =>
      rw [digits, Nat.ofDigitChars_cons, List.forall_mem_cons]
      cases digit : c.isDigit with
      | false => simp
      | true =>
          have grows := le_ofDigitChars rest (10 * acc + (c.toNat - '0'.toNat))
          simp only [Bool.not_true, Bool.false_eq_true, if_false, true_and]
          split
          · next fits => exact ih fits
          · next large =>
              simp only [reduceCtorEq, false_iff]
              intro read
              omega

/-- A numeral is read if it consists of digits, at least one, whose number is below the bound. -/
theorem parse_eq_ok_iff (positive : 0 < bound) :
    parse bound text = .ok n ↔
      unsigned text ≠ [] ∧ (∀ c ∈ unsigned text, c.isDigit = true) ∧
        Nat.ofDigitChars 10 (unsigned text) 0 = n ∧ n < bound := by
  unfold parse unsigned
  split
  · next empty => simp [empty]
  · next alone => simp [alone]
  · next rest notAlone signed =>
      rw [digits_eq_ok_iff positive, signed]
      cases rest with
      | nil => exact absurd rfl notAlone
      | cons c rest => simp
  · next notEmpty _ notSigned =>
      rw [digits_eq_ok_iff positive]
      split
      · next c rest signed => exact absurd signed (notSigned (c :: rest))
      · exact (and_iff_right notEmpty).symm

theorem ofDigitChars_eq_ofDigits (cs : List Char) :
    Nat.ofDigitChars 10 cs 0 = Nat.ofDigits 10 (cs.map digitValue).reverse := by
  induction cs with
  | nil => rfl
  | cons c rest ih =>
      rw [Nat.ofDigitChars_cons, Nat.ofDigitChars_eq_ofDigitChars_zero, ih, List.map_cons,
        Nat.ofDigits_reverse_cons, List.length_map, Nat.mul_zero, Nat.zero_add, Nat.add_comm]
      rfl

/-- The number of digits determines them from the first that is not zero. -/
theorem digits_ofDigitChars (digits : ∀ c ∈ cs, c.isDigit = true) :
    Nat.digits 10 (Nat.ofDigitChars 10 cs 0) =
      ((cs.dropWhile (· == '0')).map digitValue).reverse := by
  induction cs with
  | nil => rfl
  | cons c rest ih =>
      obtain ⟨first, others⟩ := List.forall_mem_cons.1 digits
      by_cases zero : c = '0'
      · subst zero
        exact ih others
      -- digits that start with another one than zero are all the digits of their number
      · have whole : (c :: rest).dropWhile (· == '0') = c :: rest :=
          List.dropWhile_cons_of_neg (by simpa using zero)
        rw [whole, ofDigitChars_eq_ofDigits]
        apply Nat.digits_ofDigits 10 (by decide)
        · intro d mem
          obtain ⟨c', among, rfl⟩ := List.mem_map.1 (List.mem_reverse.1 mem)
          exact digitValue_lt (digits c' among)
        · intro notEmpty
          rw [List.getLast_reverse]
          intro leading
          exact zero (digitValue_injective first (by decide) leading)

/-- Digits are determined by what they stand for. -/
theorem map_digitValue_inj (digits : ∀ c ∈ cs, c.isDigit = true)
    (digits' : ∀ c ∈ ds, c.isDigit = true) :
    cs.map digitValue = ds.map digitValue ↔ cs = ds := by
  constructor
  · intro same
    induction cs generalizing ds with
    | nil => exact (List.map_eq_nil_iff.1 same.symm).symm
    | cons c rest ih =>
        cases ds with
        | nil => cases same
        | cons d others =>
            obtain ⟨first, same⟩ := List.cons.inj same
            obtain ⟨digit, digits⟩ := List.forall_mem_cons.1 digits
            obtain ⟨digit', digits'⟩ := List.forall_mem_cons.1 digits'
            rw [digitValue_injective digit digit' first, ih digits digits' same]
  · intro same
    rw [same]

/-- Two numerals are read as the same number if and only if they have the same significant digits. -/
theorem parse_inj {m : Nat} (positive : 0 < bound) (read : parse bound text = .ok n)
    (read' : parse bound text' = .ok m) : n = m ↔ significant text = significant text' := by
  obtain ⟨-, digits, rfl, -⟩ := (parse_eq_ok_iff positive).1 read
  obtain ⟨-, digits', rfl, -⟩ := (parse_eq_ok_iff positive).1 read'
  have sublist {cs : List Char} (digits : ∀ c ∈ cs, c.isDigit = true) :
      ∀ c ∈ cs.dropWhile (· == '0'), c.isDigit = true :=
    fun c mem => digits c ((List.dropWhile_sublist _).subset mem)
  rw [← Nat.digits_inj_iff (b := 10), digits_ofDigitChars digits, digits_ofDigitChars digits',
    List.reverse_inj, map_digitValue_inj (sublist digits) (sublist digits')]
  rfl

end TokenFaucet.Number.Numeral

namespace TokenFaucet.Number.Radix

/-- A byte is the digit of a value: a decimal digit, or a letter of either case from ten on. -/
def Denotes (b : UInt8) (d : Nat) : Prop :=
  d < 10 ∧ b.toNat = 0x30 + d ∨ 10 ≤ d ∧ d < 36 ∧ (b.toNat = 0x57 + d ∨ b.toNat = 0x37 + d)

/-- Bytes spell a number in a base: but for underscores they are digits of the base, and each stands for
so many times the power of the base of its place. -/
def Spells (radix : Nat) (bs : Bytes) (n : Nat) : Prop :=
  ∃ ds : List Nat, List.Forall₂ Denotes (bs.filter (· != 0x5F)) ds ∧ (∀ d ∈ ds, d < radix) ∧
    Nat.ofDigits radix ds.reverse = n

variable {bound radix acc n : Nat} {bs : Bytes} {ds : List Nat} {text : String}

theorem digit?_eq_some_iff {b : UInt8} {d : Nat} : digit? b = some d ↔ Denotes b d := by
  simp only [digit?, Denotes]
  split
  · simp only [Option.some.injEq]
    omega
  · split
    · simp only [Option.some.injEq]
      omega
    · split
      · simp only [Option.some.injEq]
        omega
      · simp only [reduceCtorEq, false_iff]
        omega

/-- The number of digits that follow those of `acc`. -/
def continued (radix acc : Nat) (ds : List Nat) : Nat :=
  ds.foldl (fun n d => radix * n + d) acc

theorem continued_eq_ofDigits (radix : Nat) (ds : List Nat) :
    continued radix 0 ds = Nat.ofDigits radix ds.reverse := by
  rw [Nat.ofDigits_eq_foldr, List.foldr_reverse, continued]
  congr 1
  funext n d
  exact Nat.add_comm ..

theorem le_continued (below : ∀ d ∈ ds, d < radix) : acc ≤ continued radix acc ds := by
  induction ds generalizing acc with
  | nil => exact Nat.le_refl acc
  | cons d rest ih =>
      obtain ⟨first, others⟩ := List.forall_mem_cons.1 below
      calc acc
          ≤ radix * acc + d := Nat.le_add_right_of_le (Nat.le_mul_of_pos_left _ (Nat.zero_lt_of_lt first))
        _ ≤ continued radix acc (d :: rest) := ih others

/-- Digits are read unless their number is too large: no part of it is larger than the whole. -/
theorem digits_eq (spelled : List.Forall₂ Denotes (bs.filter (· != 0x5F)) ds)
    (below : ∀ d ∈ ds, d < radix) (small : acc < bound) :
    digits bound radix acc bs =
      if continued radix acc ds < bound then .ok (continued radix acc ds) else .error .tooLarge := by
  induction bs generalizing acc ds with
  | nil =>
      cases spelled
      exact (if_pos small).symm
  | cons b rest ih =>
      rw [digits]
      by_cases passed : b = 0x5F
      · rw [if_pos passed]
        refine ih ?_ below small
        rwa [List.filter_cons_of_neg (by simpa using passed)] at spelled
      · rw [if_neg passed]
        rw [List.filter_cons_of_pos (by simpa using passed)] at spelled
        cases spelled with
        | @cons _ d _ others first spelled =>
            obtain ⟨digit, below⟩ := List.forall_mem_cons.1 below
            rw [digit?_eq_some_iff.2 first]
            dsimp only
            rw [if_neg (Nat.not_le.2 digit)]
            split
            · next fits => exact ih spelled below fits
            · next large =>
                have grows : radix * acc + d ≤ continued radix acc (d :: others) := le_continued below
                exact (if_neg fun fits => large (Nat.lt_of_le_of_lt grows fits)).symm

theorem spelled_of_digits (read : digits bound radix acc bs = .ok n) :
    ∃ ds, List.Forall₂ Denotes (bs.filter (· != 0x5F)) ds ∧ ∀ d ∈ ds, d < radix := by
  induction bs generalizing acc with
  | nil => exact ⟨[], .nil, nofun⟩
  | cons b rest ih =>
      rw [digits] at read
      split at read
      · next passed =>
          rw [List.filter_cons_of_neg (by simpa using passed)]
          exact ih read
      · next counts =>
          rw [List.filter_cons_of_pos (by simpa using counts)]
          split at read
          · cases read
          · next d value =>
              split at read
              · cases read
              · next digit =>
                  split at read
                  · obtain ⟨ds, spelled, below⟩ := ih read
                    exact ⟨d :: ds, .cons (digit?_eq_some_iff.1 value) spelled,
                      List.forall_mem_cons.2 ⟨Nat.not_le.1 digit, below⟩⟩
                  · cases read

/-- What is read is the number that the digits spell. -/
theorem parse_eq_ok_iff (positive : 0 < bound) :
    parse bound radix text = .ok n ↔ Spells radix (Bytes.ofString text) n ∧ n < bound := by
  constructor
  · intro read
    obtain ⟨ds, spelled, below⟩ := spelled_of_digits read
    rw [parse, digits_eq spelled below positive] at read
    split at read
    · next fits =>
        cases read
        exact ⟨⟨ds, spelled, below, (continued_eq_ofDigits radix ds).symm⟩, fits⟩
    · cases read
  · rintro ⟨⟨ds, spelled, below, rfl⟩, fits⟩
    rw [← continued_eq_ofDigits] at fits ⊢
    rw [parse, digits_eq spelled below positive, if_pos fits]

theorem parse_eq_tooLarge (positive : 0 < bound) (spells : Spells radix (Bytes.ofString text) n)
    (large : bound ≤ n) : parse bound radix text = .error .tooLarge := by
  obtain ⟨ds, spelled, below, rfl⟩ := spells
  rw [← continued_eq_ofDigits] at large
  rw [parse, digits_eq spelled below positive, if_neg (Nat.not_lt.2 large)]

end TokenFaucet.Number.Radix
