import TokenFaucet.Proofs.Json.NumberText
import TokenFaucet.Proofs.Text.Blank
import TokenFaucet.Timestamp

set_option autoImplicit false

attribute [local instance (2000)] instPowNat

namespace TokenFaucet.Timestamp

open TokenFaucet.Json.NumberText (isDigit_replicate isDigit_toDigits)

/-- The most digits that a fraction of a second has. -/
def fractionDigits : Nat := 9

/-- The fields of a day and of a second of it, with less than a second of nanoseconds: what a clock
tells. -/
structure Proper (t : Timestamp) : Prop where
  valid : t.isValid = true
  nanosecond : t.nanosecond < 10 ^ fractionDigits

section Padded

variable {width n : Nat}

theorem isDigit_padded (width n : Nat) : ∀ c ∈ padded width n, c.isDigit = true := by
  intro c mem
  obtain zero | digit := List.mem_append.1 mem
  · exact isDigit_replicate zero
  · exact isDigit_toDigits digit

theorem ofDigitChars_padded : Nat.ofDigitChars 10 (padded width n) 0 = n := by
  rw [padded, Nat.ofDigitChars_append, Nat.ofDigitChars_replicate_zero, Nat.mul_zero,
    Nat.ofDigitChars_ten_toDigits]

theorem length_padded (pos : 0 < width) (small : n < 10 ^ width) :
    (padded width n).length = width := by
  have few := (Nat.length_toDigits_le_iff (by decide) pos).2 small
  rw [padded, List.length_append, List.length_replicate]
  omega

theorem padded_ne_nil : padded width n ≠ [] := by
  rw [padded]
  exact fun none => Nat.toDigits_ne_nil (List.append_eq_nil_iff.1 none).2

theorem skipBlanks_padded (rest : List Char) :
    skipBlanks (padded width n ++ rest) = padded width n ++ rest := by
  cases digits : padded width n with
  | nil => exact absurd digits padded_ne_nil
  | cons c cs =>
      have digit : c.isDigit = true := by
        apply isDigit_padded width n
        rw [digits]
        exact List.mem_cons_self
      exact List.dropWhile_cons_of_neg (by rw [Text.isBlank_of_isDigit digit]; decide)

theorem takeWhile_padded {rest : List Char} (noDigit : ∀ c, rest.head? = some c → c.isDigit = false) :
    (padded width n ++ rest).takeWhile Char.isDigit = padded width n := by
  rw [List.takeWhile_append_of_pos (isDigit_padded width n)]
  cases rest with
  | nil => rw [List.takeWhile_nil, List.append_nil]
  | cons c rest =>
      rw [List.takeWhile_cons_of_neg (by rw [noDigit c rfl]; decide), List.append_nil]

theorem dropWhile_padded {rest : List Char} (noDigit : ∀ c, rest.head? = some c → c.isDigit = false) :
    (padded width n ++ rest).dropWhile Char.isDigit = rest := by
  rw [List.dropWhile_append_of_pos (isDigit_padded width n)]
  cases rest with
  | nil => rfl
  | cons c rest => exact List.dropWhile_cons_of_neg (by rw [noDigit c rfl]; decide)

/-- As many digits as are looked for are all taken, whatever follows. -/
theorem number?_padded (width : Nat) {n : Nat} (pos : 0 < width) (small : n < 10 ^ width)
    (rest : List Char) :
    number? width (padded width n ++ rest) = some (n, rest) := by
  have length := length_padded pos small
  have taken : ((padded width n ++ rest).take width).takeWhile Char.isDigit = padded width n := by
    rw [List.take_left' length]
    have whole : (padded width n ++ []).takeWhile Char.isDigit = padded width n :=
      takeWhile_padded fun _ head => nomatch head
    rwa [List.append_nil] at whole
  have some_ : (padded width n).isEmpty = false := List.isEmpty_eq_false_iff.2 padded_ne_nil
  unfold number?
  dsimp only
  rw [skipBlanks_padded, taken, some_, if_neg (by decide), ofDigitChars_padded,
    List.drop_left' rfl]

theorem allDigits?_padded {rest : List Char}
    (noDigit : ∀ c, rest.head? = some c → c.isDigit = false) :
    allDigits? (padded width n ++ rest) = some (n, rest) := by
  have some_ : (padded width n).isEmpty = false := List.isEmpty_eq_false_iff.2 padded_ne_nil
  unfold allDigits?
  dsimp only
  rw [takeWhile_padded noDigit, dropWhile_padded noDigit, some_, if_neg (by decide),
    ofDigitChars_padded]

theorem fraction?_padded (pos : 0 < width) (most : width ≤ 9) (small : n < 10 ^ width) :
    fraction? ('.' :: padded width n ++ ['Z']) = some (n * 10 ^ (9 - width), ['Z']) := by
  have length := length_padded pos small
  have noDigit : ∀ c, ['Z'].head? = some c → c.isDigit = false := by
    rintro c ⟨⟩
    rfl
  have some_ : (padded width n).isEmpty = false := List.isEmpty_eq_false_iff.2 padded_ne_nil
  change (if ((padded width n ++ ['Z']).takeWhile Char.isDigit).isEmpty then none else
    some (Nat.ofDigitChars 10 (((padded width n ++ ['Z']).takeWhile Char.isDigit).take 9) 0 *
      10 ^ (9 - (((padded width n ++ ['Z']).takeWhile Char.isDigit).take 9).length),
      (padded width n ++ ['Z']).dropWhile Char.isDigit)) = _
  rw [takeWhile_padded noDigit, dropWhile_padded noDigit, some_, if_neg (by decide),
    List.take_of_length_le (by omega), ofDigitChars_padded, length]

end Padded

theorem year?_minus (cs : List Char) :
    year? ('-' :: cs) = (allDigits? cs).map fun (n, cs) => (-(n : Int), cs) := rfl

theorem year?_plus (cs : List Char) :
    year? ('+' :: cs) = (allDigits? cs).map fun (n, cs) => ((n : Int), cs) := rfl

theorem year?_digit {c : Char} (digit : c.isDigit = true) (cs : List Char) :
    year? (c :: cs) = (number? 4 (c :: cs)).map fun (n, cs) => ((n : Int), cs) := by
  have skipped : skipBlanks (c :: cs) = c :: cs :=
    List.dropWhile_cons_of_neg (by rw [Text.isBlank_of_isDigit digit]; decide)
  unfold year?
  rw [skipped]
  split
  · next same =>
      rw [(List.cons.inj same).1] at digit
      cases digit
  · next same =>
      rw [(List.cons.inj same).1] at digit
      cases digit
  · rfl

theorem year?_yearText (year : Int) (rest : List Char) :
    year? (yearText year ++ '-' :: rest) = some (year, '-' :: rest) := by
  have noDigit : ∀ c, ('-' :: rest).head? = some c → c.isDigit = false := by
    rintro c ⟨⟩
    rfl
  unfold yearText
  split
  · next below =>
      have same : -(year.natAbs : Int) = year := by omega
      rw [List.cons_append, year?_minus, allDigits?_padded noDigit, Option.map_some]
      dsimp only
      rw [same]
  · split
    · next above =>
        have same : (year.natAbs : Int) = year := by omega
        rw [List.cons_append, year?_plus, allDigits?_padded noDigit, Option.map_some]
        dsimp only
        rw [same]
    · next notBelow notAbove =>
        have small : year.natAbs < 10 ^ 4 := by omega
        have same : (year.natAbs : Int) = year := by omega
        have read := number?_padded 4 (by decide) small ('-' :: rest)
        cases digits : padded 4 year.natAbs with
        | nil => exact absurd digits padded_ne_nil
        | cons c cs =>
            have digit : c.isDigit = true := by
              apply isDigit_padded 4 year.natAbs
              rw [digits]
              exact List.mem_cons_self
            rw [digits, List.cons_append] at read
            rw [List.cons_append, year?_digit digit, read, Option.map_some]
            dsimp only
            rw [same]

theorem separator?_cons {c : Char} (noBlank : Text.isBlank c = false) (rest : List Char) :
    separator? c (c :: rest) = some rest := by
  have skipped : skipBlanks (c :: rest) = c :: rest :=
    List.dropWhile_cons_of_neg (by rw [noBlank]; decide)
  unfold separator?
  rw [skipped]
  exact if_pos rfl

theorem fraction?_fractionText {nanosecond : Nat} (small : nanosecond < 10 ^ fractionDigits) :
    fraction? (fractionText nanosecond ++ ['Z']) = some (nanosecond, ['Z']) := by
  have whole : 10 ^ fractionDigits = 10 ^ 9 := rfl
  rw [whole] at small
  unfold fractionText
  split
  · next zero =>
      subst zero
      rfl
  · split
    · next whole =>
        rw [fraction?_padded (by decide) (by decide) (by omega)]
        congr 2
        omega
    · split
      · next whole =>
          rw [fraction?_padded (by decide) (by decide) (by omega)]
          congr 2
          omega
      · rw [fraction?_padded (by decide) (by decide) small, Nat.sub_self, Nat.pow_zero, Nat.mul_one]

/-- The parts that the text of a moment has before its time. -/
theorem chars_eq (t : Timestamp) :
    t.chars = yearText t.year ++ '-' :: (padded 2 t.month ++ '-' :: (padded 2 t.day ++
      'T' :: (padded 2 t.hour ++ ':' :: (padded 2 t.minute ++ ':' :: (padded 2 t.second ++
        (fractionText t.nanosecond ++ ['Z'])))))) := by
  simp only [chars, List.append_assoc, List.cons_append]

theorem parse?_text {t : Timestamp} (proper : t.Proper) : parse? t.text = some t := by
  have valid := proper.valid
  simp only [isValid, Bool.and_eq_true, decide_eq_true_eq] at valid
  obtain ⟨⟨⟨⟨⟨⟨⟨year, -⟩, month⟩, -⟩, day⟩, hour⟩, minute⟩, second⟩ := valid
  have days : daysInMonth t.year t.month ≤ 31 := by
    unfold daysInMonth
    split
    · split <;> decide
    all_goals decide
  have minus : Text.isBlank '-' = false := rfl
  have colon : Text.isBlank ':' = false := rfl
  have universal : t.toUniversal 0 = t := if_pos rfl
  unfold parse? text
  rw [String.toList_ofList, chars_eq]
  -- each part of the date and the time is read off the rest of the text
  refine Option.bind_eq_some_iff.2 ⟨_, year?_yearText _ _, ?_⟩
  refine Option.bind_eq_some_iff.2 ⟨_, separator?_cons minus _, ?_⟩
  refine Option.bind_eq_some_iff.2 ⟨_, number?_padded 2 (by decide) (by omega) _, ?_⟩
  refine Option.bind_eq_some_iff.2 ⟨_, separator?_cons minus _, ?_⟩
  refine Option.bind_eq_some_iff.2 ⟨_, number?_padded 2 (by decide) (by omega) _, ?_⟩
  refine (if_pos (.inl rfl)).trans ?_
  refine Option.bind_eq_some_iff.2 ⟨_, rfl, ?_⟩
  refine Option.bind_eq_some_iff.2 ⟨_, number?_padded 2 (by decide) (by omega) _, ?_⟩
  refine Option.bind_eq_some_iff.2 ⟨_, separator?_cons colon _, ?_⟩
  refine Option.bind_eq_some_iff.2 ⟨_, number?_padded 2 (by decide) (by omega) _, ?_⟩
  refine Option.bind_eq_some_iff.2 ⟨_, separator?_cons colon _, ?_⟩
  refine Option.bind_eq_some_iff.2 ⟨_, number?_padded 2 (by decide) (by omega) _, ?_⟩
  refine Option.bind_eq_some_iff.2 ⟨_, fraction?_fractionText proper.nanosecond, ?_⟩
  refine Option.bind_eq_some_iff.2 ⟨(0, []), rfl, ?_⟩
  refine (if_neg (by decide)).trans ?_
  refine (if_neg (by rw [proper.valid]; decide)).trans ?_
  change (if yearInRange (t.toUniversal 0).year = true then some (t.toUniversal 0) else none) = some t
  rw [universal, if_pos year]

end TokenFaucet.Timestamp
