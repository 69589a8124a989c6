import TokenFaucet.Proofs.Json.NumberText
import TokenFaucet.Proofs.Number.Shortest

set_option autoImplicit false

namespace TokenFaucet.Json

open TokenFaucet.Number (Binary64 DecimalLayout)

namespace NumberText

/-- The parts of a literal with the point at its place. -/
def plain (negative : Bool) (digits : List Char) (exponent : Int) : NumberText :=
  if 0 ≤ exponent then ⟨negative, digits ++ List.replicate exponent.toNat '0', some ['0'], none⟩
  else
    let fraction := (-exponent).toNat
    if fraction < digits.length then
      ⟨negative, digits.take (digits.length - fraction),
        some (digits.drop (digits.length - fraction)), none⟩
    else
      ⟨negative, ['0'], some (List.replicate (fraction - digits.length) '0' ++ digits), none⟩

/-- The parts of a literal with the point behind the first digit. -/
def scientific (negative : Bool) (digits : List Char) (power : Int) : NumberText :=
  let exponent := some (decide (power < 0), Nat.toDigits 10 power.natAbs)
  match digits with
  | d :: e :: rest => ⟨negative, [d], some (e :: rest), exponent⟩
  | ds => ⟨negative, ds, none, exponent⟩

/-- The parts of the literal of a finite number. -/
def ofBinary64 (x : Binary64) : NumberText :=
  if x.isZero then ⟨x.isNegative, ['0'], some ['0'], none⟩
  else
    let digits := Nat.toDigits 10 x.shortest.digits
    let power := digits.length + x.shortest.exponent - 1
    if DecimalLayout.json.plainFrom ≤ power ∧ power < DecimalLayout.json.plainBelow then
      plain x.isNegative digits x.shortest.exponent
    else scientific x.isNegative digits power

theorem literal_plain (negative : Bool) (digits : List Char) (exponent : Int) :
    (plain negative digits exponent).literal =
      (if negative then ['-'] else []) ++ DecimalLayout.plain digits exponent := by
  unfold plain DecimalLayout.plain literal
  by_cases sign : 0 ≤ exponent
  · simp [sign, pointChars, exponentChars]
  · by_cases short : (-exponent).toNat < digits.length
    · simp [sign, short, pointChars, exponentChars]
    · simp [sign, short, pointChars, exponentChars]

theorem literal_scientific (negative : Bool) (digits : List Char) (power : Int) :
    (scientific negative digits power).literal =
      (if negative then ['-'] else []) ++ DecimalLayout.json.scientific digits power := by
  unfold scientific DecimalLayout.scientific literal
  by_cases below : power < 0
  · match digits with
    | [] => simp [pointChars, exponentChars, below]
    | [d] => simp [pointChars, exponentChars, below]
    | d :: e :: rest => simp [pointChars, exponentChars, below]
  · match digits with
    | [] => simp [pointChars, exponentChars, below, DecimalLayout.json]
    | [d] => simp [pointChars, exponentChars, below, DecimalLayout.json]
    | d :: e :: rest => simp [pointChars, exponentChars, below, DecimalLayout.json]

/-- The text of a finite number is the literal of its parts. -/
theorem literal_ofBinary64 (x : Binary64) :
    (ofBinary64 x).literal = DecimalLayout.json.characters x := by
  unfold ofBinary64 DecimalLayout.characters
  by_cases zero : x.isZero = true
  · simp [zero, literal, pointChars, exponentChars]
  · rw [if_neg zero, if_neg zero]
    dsimp only
    split
    · exact literal_plain ..
    · exact literal_scientific ..

/-- Digits that begin with no zero, or a zero that counts units. -/
def Leading (digits : List Char) (exponent : Int) : Prop :=
  (∀ rest, digits ≠ '0' :: rest) ∨ (digits = ['0'] ∧ exponent = 0)

theorem leading_shortest (x : Binary64) :
    Leading (Nat.toDigits 10 x.shortest.digits) x.shortest.exponent := by
  obtain none | pos := x.shortest_cases
  · rw [none]
    exact .inr ⟨rfl, rfl⟩
  · exact .inl fun rest => toDigits_ne_zero_cons (Nat.ne_of_gt pos) rest

section WellFormed

variable {negative : Bool} {digits : List Char} {exponent : Int}

/-- Nothing stands before the point. -/
theorem wellFormed_zero {ds : List Char} (notEmpty : ds ≠ []) (all : ∀ c ∈ ds, c.isDigit = true) :
    WellFormed ⟨negative, ['0'], some ds, none⟩ where
  whole := by
    refine ⟨List.cons_ne_nil _ _, ?_⟩
    intro d rest same
    cases same
  wholeDigits := by
    intro c mem
    rw [List.mem_singleton.1 mem]
    rfl
  fraction := by
    rintro _ ⟨⟩
    exact ⟨notEmpty, all⟩
  exponent := fun _ _ same => nomatch same

/-- The point stands behind all digits. -/
theorem wellFormed_whole (all : ∀ c ∈ digits, c.isDigit = true) (notEmpty : digits ≠ []) {e : Nat}
    (leading : (∀ rest, digits ≠ '0' :: rest) ∨ (digits = ['0'] ∧ e = 0)) :
    WellFormed ⟨negative, digits ++ List.replicate e '0', some ['0'], none⟩ where
  whole := by
    refine ⟨by simp [notEmpty], ?_⟩
    intro d rest same
    obtain noZero | ⟨rfl, rfl⟩ := leading
    · cases digits with
      | nil => exact notEmpty rfl
      | cons c cs =>
          rw [List.cons_append] at same
          exact noZero cs (by rw [(List.cons.inj same).1])
    · cases same
  wholeDigits := by
    intro c mem
    obtain mem | mem := List.mem_append.1 mem
    · exact all c mem
    · exact isDigit_replicate mem
  fraction := by
    rintro ds ⟨⟩
    exact ⟨List.cons_ne_nil _ _, fun c mem => isDigit_replicate (n := 1) mem⟩
  exponent := fun _ _ same => nomatch same

/-- The point stands among the digits. -/
theorem wellFormed_inside (all : ∀ c ∈ digits, c.isDigit = true)
    (noZero : ∀ rest, digits ≠ '0' :: rest) {count : Nat} (pos : 0 < count)
    (few : count < digits.length) :
    WellFormed ⟨negative, digits.take count, some (digits.drop count), none⟩ where
  whole := by
    obtain ⟨k, rfl⟩ := Nat.exists_eq_add_one_of_ne_zero (Nat.ne_of_gt pos)
    constructor
    · intro none
      have length := congrArg List.length none
      rw [List.length_take, List.length_nil] at length
      omega
    · intro d rest same
      cases digits with
      | nil => exact absurd few (Nat.not_lt_zero _)
      | cons c cs =>
          rw [List.take_succ_cons] at same
          exact noZero cs (by rw [(List.cons.inj same).1])
  wholeDigits := fun c mem => all c (List.mem_of_mem_take mem)
  fraction := by
    rintro ds ⟨⟩
    refine ⟨?_, fun c mem => all c (List.mem_of_mem_drop mem)⟩
    intro none
    have length := congrArg List.length none
    rw [List.length_drop, List.length_nil] at length
    omega
  exponent := fun _ _ same => nomatch same

theorem wellFormed_plain (all : ∀ c ∈ digits, c.isDigit = true) (notEmpty : digits ≠ [])
    (leading : Leading digits exponent) : WellFormed (plain negative digits exponent) := by
  unfold plain
  by_cases sign : 0 ≤ exponent
  · rw [if_pos sign]
    apply wellFormed_whole all notEmpty
    obtain noZero | ⟨zero, rfl⟩ := leading
    · exact .inl noZero
    · exact .inr ⟨zero, rfl⟩
  · rw [if_neg sign]
    dsimp only
    split
    · next short =>
        have noZero : ∀ rest, digits ≠ '0' :: rest := by
          obtain noZero | ⟨-, rfl⟩ := leading
          · exact noZero
          · exact absurd (Int.le_refl 0) sign
        exact wellFormed_inside all noZero (by omega) (by omega)
    · refine wellFormed_zero (by simp [notEmpty]) ?_
      intro c mem
      obtain mem | mem := List.mem_append.1 mem
      · exact isDigit_replicate mem
      · exact all c mem

theorem wellFormed_scientific (all : ∀ c ∈ digits, c.isDigit = true) (notEmpty : digits ≠ [])
    (power : Int) : WellFormed (scientific negative digits power) := by
  have exponents : ∀ negative ds,
      some (decide (power < 0), Nat.toDigits 10 power.natAbs) = some (negative, ds) →
        ds ≠ [] ∧ ∀ c ∈ ds, c.isDigit = true := by
    rintro negative ds ⟨⟩
    exact ⟨Nat.toDigits_ne_nil, fun c mem => isDigit_toDigits mem⟩
  match digits with
  | [] => exact absurd rfl notEmpty
  | [d] =>
      refine ⟨⟨by simp [scientific], ?_⟩, all, fun _ same => (nomatch same), exponents⟩
      intro c rest same
      cases same
  | d :: e :: rest =>
      refine ⟨⟨by simp [scientific], ?_⟩, ?_, ?_, exponents⟩
      · intro c rest same
        cases same
      · intro c mem
        exact all c (by simp only [scientific, List.mem_singleton] at mem; simp [mem])
      · rintro ds ⟨⟩
        exact ⟨by simp, fun c mem => all c (List.mem_cons_of_mem _ mem)⟩

end WellFormed

theorem wellFormed_ofBinary64 (x : Binary64) : WellFormed (ofBinary64 x) := by
  unfold ofBinary64
  split
  · exact wellFormed_zero (List.cons_ne_nil _ _) fun c mem => isDigit_replicate (n := 1) mem
  · dsimp only
    split
    · exact wellFormed_plain (fun c mem => isDigit_toDigits mem) Nat.toDigits_ne_nil
        (leading_shortest x)
    · exact wellFormed_scientific (fun c mem => isDigit_toDigits mem) Nat.toDigits_ne_nil _

/-- The text of a finite number is read as its parts. -/
theorem read?_characters (x : Binary64) :
    read? (DecimalLayout.json.characters x) = some (ofBinary64 x, []) := by
  rw [← literal_ofBinary64]
  exact read?_literal (wellFormed_ofBinary64 x)

end NumberText

end TokenFaucet.Json
