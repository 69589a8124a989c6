import TokenFaucet.Json.NumberText
import TokenFaucet.Json.Printer

set_option autoImplicit false

namespace TokenFaucet.Json.NumberText

/-- What follows does not go on with a number. -/
def Ends (rest : List Char) : Prop :=
  ∀ c, rest.head? = some c → c.isDigit = false ∧ c ≠ '.' ∧ c ≠ 'e' ∧ c ≠ 'E'

theorem ends_nil : Ends [] := by
  intro c head
  cases head

theorem ends_cons {c : Char} (rest : List Char) (digit : c.isDigit = false) (point : c ≠ '.')
    (small : c ≠ 'e') (capital : c ≠ 'E') : Ends (c :: rest) := by
  intro d head
  cases head
  exact ⟨digit, point, small, capital⟩

variable {cs r rest : List Char}

theorem Ends.noDigit (ends : Ends rest) : ∀ c, rest.head? = some c → c.isDigit = false :=
  fun c head => (ends c head).1

theorem digits_append (noDigit : ∀ c, rest.head? = some c → c.isDigit = false) :
    digits (cs ++ rest) = ((digits cs).1, (digits cs).2 ++ rest) := by
  induction cs with
  | nil =>
      cases rest with
      | nil => rfl
      | cons c rest =>
          have other := noDigit c rfl
          simp [digits, other]
  | cons c cs ih =>
      simp only [digits, Prod.mk.injEq] at ih
      cases digit : c.isDigit with
      | true => simp [digits, digit, ih]
      | false => simp [digits, digit]

/-- Digits that may stand before the point: there are some, and none follows a zero in front. -/
def IsWhole (ds : List Char) : Prop :=
  ds ≠ [] ∧ ∀ d rest, ds ≠ '0' :: d :: rest

theorem whole?_eq_some_iff {w : List Char} :
    whole? cs = some (w, r) ↔ digits cs = (w, r) ∧ IsWhole w := by
  unfold whole?
  constructor
  · intro read
    split at read
    · cases read
    · cases read
    · next notEmpty notZero found =>
        cases read
        exact ⟨found, notEmpty, notZero⟩
  · rintro ⟨found, notEmpty, notZero⟩
    rw [found]
    split
    · next same =>
        cases same
        exact absurd rfl notEmpty
    · next same =>
        cases same
        exact absurd rfl (notZero _ _)
    · next same =>
        cases same
        rfl

theorem whole?_append {w : List Char} (read : whole? cs = some (w, r)) (ends : Ends rest) :
    whole? (cs ++ rest) = some (w, r ++ rest) := by
  obtain ⟨found, whole⟩ := whole?_eq_some_iff.1 read
  apply whole?_eq_some_iff.2
  rw [digits_append ends.noDigit, found]
  exact ⟨rfl, whole⟩

theorem fraction?_append {f : Option (List Char)} (read : fraction? cs = some (f, r))
    (ends : Ends rest) : fraction? (cs ++ rest) = some (f, r ++ rest) := by
  unfold fraction? at read
  split at read
  · next cs =>
      rw [List.cons_append, fraction?, digits_append ends.noDigit]
      generalize digits cs = found at read ⊢
      obtain ⟨ds, after⟩ := found
      cases ds with
      | nil => cases read
      | cons d ds =>
          cases read
          rfl
  · next noPoint =>
      cases read
      rw [fraction?]
      intro after same
      cases cs with
      | nil =>
          have point := ends '.' (by rw [show rest = '.' :: after from same]; rfl)
          exact point.2.1 rfl
      | cons c cs =>
          cases same
          exact noPoint _ rfl

theorem exponentDigits?_append {negative : Bool} {e : Option (Bool × List Char)}
    (read : exponentDigits? negative cs = some (e, r)) (ends : Ends rest) :
    exponentDigits? negative (cs ++ rest) = some (e, r ++ rest) := by
  unfold exponentDigits? at read ⊢
  rw [digits_append ends.noDigit]
  generalize digits cs = found at read ⊢
  obtain ⟨ds, after⟩ := found
  cases ds with
  | nil => cases read
  | cons d ds =>
      cases read
      rfl

/-- The digits of an exponent behind its sign, if it has one. -/
def signedDigits? : List Char → Option (Option (Bool × List Char) × List Char)
  | '+' :: cs => exponentDigits? false cs
  | '-' :: cs => exponentDigits? true cs
  | cs => exponentDigits? false cs

theorem exponent?_cons (c : Char) (cs : List Char) :
    exponent? (c :: cs) = if c = 'e' ∨ c = 'E' then signedDigits? cs else some (none, c :: cs) := rfl

theorem signedDigits?_append {e : Option (Bool × List Char)} (read : signedDigits? cs = some (e, r))
    (ends : Ends rest) : signedDigits? (cs ++ rest) = some (e, r ++ rest) := by
  unfold signedDigits? at read
  split at read
  · exact exponentDigits?_append read ends
  · exact exponentDigits?_append read ends
  · next noPlus noMinus =>
      cases cs with
      | nil => cases read
      | cons c cs =>
          rw [List.cons_append, signedDigits?]
          · exact exponentDigits?_append read ends
          · intro after same
            cases same
            exact noPlus _ rfl
          · intro after same
            cases same
            exact noMinus _ rfl

theorem exponent?_append {e : Option (Bool × List Char)} (read : exponent? cs = some (e, r))
    (ends : Ends rest) : exponent? (cs ++ rest) = some (e, r ++ rest) := by
  cases cs with
  | nil =>
      cases read
      cases rest with
      | nil => rfl
      | cons c rest =>
          obtain ⟨-, -, small, capital⟩ := ends c rfl
          rw [List.nil_append, exponent?_cons, if_neg (by simp [small, capital])]
  | cons c cs =>
      rw [exponent?_cons] at read
      rw [List.cons_append, exponent?_cons]
      split at read
      · next mark =>
          rw [if_pos mark]
          exact signedDigits?_append read ends
      · next noMark =>
          cases read
          rw [if_neg noMark, List.cons_append]

def unsigned? (negative : Bool) (cs : List Char) : Option (NumberText × List Char) := do
  let (whole, cs) ← whole? cs
  let (fraction, cs) ← fraction? cs
  let (exponent, cs) ← exponent? cs
  some (⟨negative, whole, fraction, exponent⟩, cs)

/-- Whether a minus stands in front, and what follows it. -/
def sign : List Char → Bool × List Char
  | '-' :: cs => (true, cs)
  | cs => (false, cs)

theorem read?_eq (cs : List Char) : read? cs = unsigned? (sign cs).1 (sign cs).2 := rfl

theorem read?_minus (cs : List Char) : read? ('-' :: cs) = unsigned? true cs := rfl

theorem read?_of_no_minus (noMinus : ∀ after, cs ≠ '-' :: after) :
    read? cs = unsigned? false cs := by
  have unsigned : sign cs = (false, cs) := by
    unfold sign
    split
    · exact absurd rfl (noMinus _)
    · rfl
  rw [read?_eq, unsigned]

theorem unsigned?_eq_some_iff {negative : Bool} {t : NumberText} :
    unsigned? negative cs = some (t, r) ↔ ∃ afterWhole afterFraction,
      whole? cs = some (t.whole, afterWhole) ∧
      fraction? afterWhole = some (t.fraction, afterFraction) ∧
      exponent? afterFraction = some (t.exponent, r) ∧ t.negative = negative := by
  simp only [unsigned?, Option.bind_eq_bind, Option.bind_eq_some_iff]
  constructor
  · rintro ⟨⟨w, a⟩, whole, ⟨f, b⟩, fraction, ⟨e, c⟩, exponent, same⟩
    cases same
    exact ⟨a, b, whole, fraction, exponent, rfl⟩
  · rintro ⟨a, b, whole, fraction, exponent, rfl⟩
    exact ⟨(t.whole, a), whole, (t.fraction, b), fraction, (t.exponent, r), exponent, rfl⟩

theorem unsigned?_append {negative : Bool} {t : NumberText}
    (read : unsigned? negative cs = some (t, r)) (ends : Ends rest) :
    unsigned? negative (cs ++ rest) = some (t, r ++ rest) := by
  obtain ⟨a, b, whole, fraction, exponent, sign⟩ := unsigned?_eq_some_iff.1 read
  exact unsigned?_eq_some_iff.2 ⟨a ++ rest, b ++ rest, whole?_append whole ends,
    fraction?_append fraction ends, exponent?_append exponent ends, sign⟩

/-- A literal ends where what follows does not go on with it. -/
theorem read?_append {t : NumberText} (read : read? cs = some (t, r)) (ends : Ends rest) :
    read? (cs ++ rest) = some (t, r ++ rest) := by
  by_cases minus : ∃ after, cs = '-' :: after
  · obtain ⟨after, rfl⟩ := minus
    rw [read?_minus] at read
    rw [List.cons_append, read?_minus]
    exact unsigned?_append read ends
  · have noMinus : ∀ after, cs ≠ '-' :: after := not_exists.1 minus
    rw [read?_of_no_minus noMinus] at read
    rw [read?_of_no_minus]
    · exact unsigned?_append read ends
    · intro after same
      cases cs with
      | nil => cases read
      | cons c cs =>
          cases same
          exact noMinus _ rfl

/-- The first character of a literal. -/
theorem head_of_read? {t : NumberText} (read : read? cs = some (t, r)) :
    ∃ c after, cs = c :: after ∧ (c = '-' ∨ c.isDigit = true) := by
  by_cases minus : ∃ after, cs = '-' :: after
  · obtain ⟨after, rfl⟩ := minus
    exact ⟨'-', after, rfl, .inl rfl⟩
  · rw [read?_of_no_minus (not_exists.1 minus)] at read
    obtain ⟨a, b, whole, -⟩ := unsigned?_eq_some_iff.1 read
    obtain ⟨found, notEmpty, -⟩ := whole?_eq_some_iff.1 whole
    cases cs with
    | nil => exact absurd (congrArg Prod.fst found).symm notEmpty
    | cons c after =>
        refine ⟨c, after, rfl, .inr ?_⟩
        cases digit : c.isDigit with
        | true => rfl
        | false =>
            simp only [digits, List.takeWhile_cons, digit] at found
            exact absurd (congrArg Prod.fst found).symm notEmpty

section Digits

theorem digits_of_all {ds : List Char} (all : ∀ c ∈ ds, c.isDigit = true) : digits ds = (ds, []) := by
  induction ds with
  | nil => rfl
  | cons d ds ih =>
      have first := all d (List.mem_cons_self ..)
      have others := ih fun c mem => all c (List.mem_cons_of_mem _ mem)
      simp only [digits, Prod.mk.injEq] at others
      simp [digits, first, others]

theorem isDigit_replicate {c : Char} {n : Nat} (mem : c ∈ List.replicate n '0') : c.isDigit = true := by
  rw [List.eq_of_mem_replicate mem]
  rfl

theorem isDigit_toDigits {n : Nat} {c : Char} (mem : c ∈ Nat.toDigits 10 n) : c.isDigit = true :=
  Nat.isDigit_of_mem_toDigits (by decide) (by decide) mem

theorem toDigits_ne_zero_cons {n : Nat} (nonzero : n ≠ 0) (rest : List Char) :
    Nat.toDigits 10 n ≠ '0' :: rest := by
  induction n using Nat.strongRecOn generalizing rest with
  | ind n ih =>
      by_cases small : n < 10
      · have notZero : ∀ n < 10, n ≠ 0 → n.digitChar ≠ '0' := by decide
        rw [Nat.toDigits_of_lt_base small]
        intro same
        exact notZero n small nonzero (List.cons.inj same).1
      · rw [Nat.toDigits_of_base_le (by decide) (by omega)]
        intro same
        cases front : Nat.toDigits 10 (n / 10) with
        | nil => exact Nat.toDigits_ne_nil front
        | cons d ds =>
            rw [front] at same
            have head := (List.cons.inj same).1
            rw [head] at front
            exact ih (n / 10) (by omega) (by omega) ds front

theorem isWhole_toDigits (n : Nat) : IsWhole (Nat.toDigits 10 n) := by
  refine ⟨Nat.toDigits_ne_nil, ?_⟩
  intro d rest same
  by_cases zero : n = 0
  · subst zero
    cases same
  · exact toDigits_ne_zero_cons zero _ same

theorem le_ofDigitChars (ds : List Char) (acc : Nat) : acc ≤ Nat.ofDigitChars 10 ds acc := by
  induction ds generalizing acc with
  | nil => exact Nat.le_refl _
  | cons d ds ih =>
      rw [Nat.ofDigitChars_cons]
      exact Nat.le_trans (by omega) (ih _)

/-- Digits that 64 bits hold are all gathered. -/
theorem gather_of_lt {ds : List Char} {acc : Nat} (small : Nat.ofDigitChars 10 ds acc < UInt64.size) :
    gather acc ds = (Nat.ofDigitChars 10 ds acc, []) := by
  induction ds generalizing acc with
  | nil => rfl
  | cons d ds ih =>
      rw [Nat.ofDigitChars_cons] at small ⊢
      have next := Nat.lt_of_le_of_lt (le_ofDigitChars ds _) small
      rw [gather, if_pos next]
      exact ih small

end Digits

section Parts

def pointChars : Option (List Char) → List Char
  | none => []
  | some ds => '.' :: ds

/-- The characters of an exponent with its sign. -/
def exponentChars : Option (Bool × List Char) → List Char
  | none => []
  | some (negative, ds) => 'e' :: (if negative then '-' else '+') :: ds

/-- Parts that a literal may have: digits everywhere, and at least one of them. -/
structure WellFormed (t : NumberText) : Prop where
  whole : IsWhole t.whole
  wholeDigits : ∀ c ∈ t.whole, c.isDigit = true
  fraction : ∀ ds, t.fraction = some ds → ds ≠ [] ∧ ∀ c ∈ ds, c.isDigit = true
  exponent : ∀ negative ds, t.exponent = some (negative, ds) →
    ds ≠ [] ∧ ∀ c ∈ ds, c.isDigit = true

theorem digits_of_all_append {ds : List Char} (all : ∀ c ∈ ds, c.isDigit = true)
    (noDigit : ∀ c, rest.head? = some c → c.isDigit = false) : digits (ds ++ rest) = (ds, rest) := by
  rw [digits_append noDigit, digits_of_all all]
  rfl

theorem exponentChars_noDigit (e : Option (Bool × List Char)) :
    ∀ c, (exponentChars e).head? = some c → c.isDigit = false := by
  intro c head
  match e with
  | none => cases head
  | some (negative, ds) =>
      cases head
      rfl

theorem fraction?_chars {f : Option (List Char)} (e : Option (Bool × List Char))
    (formed : ∀ ds, f = some ds → ds ≠ [] ∧ ∀ c ∈ ds, c.isDigit = true) :
    fraction? (pointChars f ++ exponentChars e) = some (f, exponentChars e) := by
  match f with
  | none =>
      match e with
      | none => rfl
      | some (negative, ds) => rfl
  | some ds =>
      obtain ⟨some_, all⟩ := formed ds rfl
      rw [pointChars, List.cons_append, fraction?, digits_of_all_append all (exponentChars_noDigit e)]
      cases ds with
      | nil => exact absurd rfl some_
      | cons d ds => rfl

theorem exponent?_chars {e : Option (Bool × List Char)}
    (formed : ∀ negative ds, e = some (negative, ds) → ds ≠ [] ∧ ∀ c ∈ ds, c.isDigit = true) :
    exponent? (exponentChars e) = some (e, []) := by
  match e with
  | none => rfl
  | some (negative, ds) =>
      obtain ⟨some_, all⟩ := formed negative ds rfl
      have read : exponentDigits? negative ds = some (some (negative, ds), []) := by
        rw [exponentDigits?, digits_of_all all]
        cases ds with
        | nil => exact absurd rfl some_
        | cons d ds => rfl
      cases negative with
      | true => exact read
      | false => exact read

theorem unsigned?_chars {t : NumberText} (formed : WellFormed t) :
    unsigned? t.negative (t.whole ++ (pointChars t.fraction ++ exponentChars t.exponent)) =
      some (t, []) := by
  have noDigit : ∀ c, (pointChars t.fraction ++ exponentChars t.exponent).head? = some c →
      c.isDigit = false := by
    intro c head
    cases fraction : t.fraction with
    | none =>
        rw [fraction] at head
        exact exponentChars_noDigit t.exponent c head
    | some ds =>
        rw [fraction] at head
        cases head
        rfl
  exact unsigned?_eq_some_iff.2 ⟨_, _,
    whole?_eq_some_iff.2 ⟨digits_of_all_append formed.wholeDigits noDigit, formed.whole⟩,
    fraction?_chars t.exponent formed.fraction, exponent?_chars formed.exponent, rfl⟩

/-- The characters of a literal of those parts. -/
def literal (t : NumberText) : List Char :=
  (if t.negative then ['-'] else []) ++ (t.whole ++ (pointChars t.fraction ++ exponentChars t.exponent))

theorem read?_literal {t : NumberText} (formed : WellFormed t) : read? t.literal = some (t, []) := by
  have read := unsigned?_chars formed
  cases sign : t.negative with
  | true =>
      rw [sign] at read
      rw [literal, if_pos sign]
      exact read
  | false =>
      rw [sign] at read
      rw [literal, if_neg (by simp [sign]), List.nil_append, read?_of_no_minus]
      · exact read
      · intro after same
        cases whole : t.whole with
        | nil => exact formed.whole.1 whole
        | cons c rest =>
            have digit := formed.wholeDigits c (by rw [whole]; exact List.mem_cons_self ..)
            rw [whole] at same
            cases (List.cons.inj same).1
            cases digit

end Parts

section Integers

theorem wellFormed_toDigits (negative : Bool) (n : Nat) :
    WellFormed ⟨negative, Nat.toDigits 10 n, none, none⟩ where
  whole := isWhole_toDigits n
  wholeDigits := fun _ mem => isDigit_toDigits mem
  fraction := fun _ same => nomatch same
  exponent := fun _ _ same => nomatch same

theorem read?_integerText (i : Int) :
    read? (integerText i) = some (⟨decide (i < 0), Nat.toDigits 10 i.natAbs, none, none⟩, []) := by
  have read := read?_literal (wellFormed_toDigits (decide (i < 0)) i.natAbs)
  rw [← read]
  congr 1
  unfold integerText literal
  by_cases negative : i < 0
  · simp [negative, pointChars, exponentChars]
  · simp [negative, pointChars, exponentChars]

theorem number?_toDigits {n : Nat} (small : n < UInt64.size) :
    number? ⟨false, Nat.toDigits 10 n, none, none⟩ = some (.integer n) := by
  have gathered : gather 0 (Nat.toDigits 10 n) = (n, []) := by
    rw [gather_of_lt] <;> rw [Nat.ofDigitChars_ten_toDigits]
    exact small
  simp only [number?, gathered]
  rfl

end Integers

end TokenFaucet.Json.NumberText
