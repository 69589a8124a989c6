import TokenFaucet.Amount
import TokenFaucet.Proofs.Bytes.Text
import TokenFaucet.Proofs.Number.Numeral
import TokenFaucet.Proofs.Result
import TokenFaucet.Proofs.Text.Blank

set_option autoImplicit false

attribute [local instance (2000)] instPowNat

namespace TokenFaucet

namespace Bytes

/-- The byte of a digit of ASCII. -/
def IsDigit (b : UInt8) : Prop :=
  0x30 ≤ b.toNat ∧ b.toNat ≤ 0x39

/-- A character outside of ASCII has no byte of a digit. -/
theorem forall_isDigit_utf8EncodeChar {c : Char} :
    (∀ b ∈ String.utf8EncodeChar c, IsDigit b) ↔ c.isDigit = true := by
  rw [Char.isDigit_iff_toNat]
  by_cases ascii : c.toNat < 128
  · have byte : (UInt8.ofNat c.toNat).toNat = c.toNat := by
      rw [UInt8.toNat_ofNat']
      omega
    simp only [utf8EncodeChar_ascii ascii, List.mem_singleton, forall_eq, IsDigit, byte]
    rfl
  · constructor
    · intro digits
      obtain ⟨b, mem⟩ := List.exists_mem_of_ne_nil _ (String.utf8EncodeChar_ne_nil (c := c))
      have high := high_of_mem_utf8EncodeChar (Nat.not_lt.1 ascii) b mem
      have low := (digits b mem).2
      omega
    · intro ⟨_, low⟩
      have nine : '9'.toNat = 57 := rfl
      omega

theorem forall_isDigit_iff {s : String} :
    (∀ b ∈ ofString s, IsDigit b) ↔ ∀ c ∈ s.toList, c.isDigit = true := by
  rw [ofString_eq_flatMap]
  simp only [List.mem_flatMap, forall_exists_index, and_imp]
  constructor
  · intro digits c mem
    exact forall_isDigit_utf8EncodeChar.1 fun b own => digits b c mem own
  · intro digits b c mem own
    exact forall_isDigit_utf8EncodeChar.2 (digits c mem) b own

end Bytes

namespace MinorUnits

open Number.Numeral (digitValue digitValue_lt ofDigitChars_eq_ofDigits)
open Json.NumberText (isDigit_replicate isDigit_toDigits)

/-- A text spells a number in digits: each stands for so many times the power of ten of its place. -/
def Spells (text : String) (n : Nat) : Prop :=
  text ≠ "" ∧ (∀ b ∈ Bytes.ofString text, Bytes.IsDigit b) ∧
    Nat.ofDigits 10 (text.toList.map digitValue).reverse = n

variable {text core : String} {a : MinorUnits} {n : Nat}

theorem spells_iff : Spells core n ↔
    core.toList ≠ [] ∧ (∀ c ∈ core.toList, c.isDigit = true) ∧
      Nat.ofDigitChars 10 core.toList 0 = n := by
  rw [Spells, Bytes.forall_isDigit_iff, ofDigitChars_eq_ofDigits, ne_eq, ne_eq, String.toList_eq_nil_iff]

theorem Spells.digits (spells : Spells core n) : ∀ c ∈ core.toList, c.isDigit = true :=
  Bytes.forall_isDigit_iff.1 spells.2.1

/-- The bytes of digits spell the number that the digits spell. -/
theorem Spells.radix (spells : Spells core n) : Number.Radix.Spells 10 (Bytes.ofString core) n := by
  have digits := spells.digits
  have byte {c : Char} (digit : c.isDigit = true) :
      (UInt8.ofNat c.toNat).toNat = c.toNat ∧ 0x30 ≤ c.toNat ∧ c.toNat ≤ 0x39 := by
    obtain ⟨low, high⟩ := Char.isDigit_iff_toNat.1 digit
    have nine : '9'.toNat = 0x39 := rfl
    rw [UInt8.toNat_ofNat']
    exact ⟨by omega, low, high⟩
  have bytes : Bytes.ofString core = core.toList.map fun c => UInt8.ofNat c.toNat := by
    have ascii : ∀ c ∈ core.toList, c.toNat < 128 := by
      intro c mem
      have small := (byte (digits c mem)).2.2
      omega
    rw [← Bytes.ofString_ascii ascii, String.ofList_toList]
  have counted : (Bytes.ofString core).filter (· != 0x5F) = Bytes.ofString core := by
    refine List.filter_eq_self.2 fun b mem => ?_
    have small := (spells.2.1 b mem).2
    rw [bne_iff_ne]
    rintro rfl
    exact absurd small (by decide)
  refine ⟨core.toList.map digitValue, ?_, ?_, spells.2.2⟩
  · rw [counted, bytes, List.forall₂_map_left_iff, List.forall₂_map_right_iff, List.forall₂_same]
    intro c mem
    obtain ⟨same, low, high⟩ := byte (digits c mem)
    refine .inl ⟨digitValue_lt (digits c mem), ?_⟩
    have zero : '0'.toNat = 0x30 := rfl
    rw [same, digitValue, zero]
    omega
  · intro d mem
    obtain ⟨c, own, rfl⟩ := List.mem_map.1 mem
    exact digitValue_lt (digits c own)

theorem Spells.unique {m : Nat} (spells : Spells core n) (spells' : Spells core m) : n = m :=
  spells.2.2.symm.trans spells'.2.2

/-- What digits are read as: the number that they spell, unless it is too large. -/
theorem Spells.ofRadix_eq (spells : Spells core n) :
    ofRadix 10 core = if fits : n < 2 ^ width then .ok ⟨n, fits⟩ else .error .tooLarge := by
  split
  · next fits =>
      exact ofRadix_eq_ok_iff.2 ((Number.Radix.parse_eq_ok_iff (by decide)).2 ⟨spells.radix, fits⟩)
  · next large =>
      exact ofRadix_eq_error_iff.2
        (Number.Radix.parse_eq_tooLarge (by decide) spells.radix (Nat.not_lt.1 large))

/-- The ways a text is read: one for each kind of what is left of it without blanks. -/
theorem parse_cases (text : String) :
    (Text.trim text = "" ∧ parse text = .error .empty) ∨
    (Text.trim text ≠ "" ∧ (∃ b ∈ Bytes.ofString (Text.trim text), ¬ Bytes.IsDigit b) ∧
      parse text = .error (.notInteger (Text.trim text))) ∨
    (∃ n, Spells (Text.trim text) n ∧ 2 ^ width ≤ n ∧ parse text = .error .overflow) ∨
    ∃ a, Spells (Text.trim text) a.toNat ∧ parse text = .ok a := by
  unfold parse
  dsimp only
  split
  · next empty =>
      rw [List.isEmpty_iff, String.toList_eq_nil_iff] at empty
      exact .inl ⟨empty, rfl⟩
  · next nonempty =>
      rw [List.isEmpty_iff] at nonempty
      split
      · next other =>
          refine .inr (.inl ⟨mt String.toList_eq_nil_iff.2 nonempty, ?_, rfl⟩)
          by_contra none
          push Not at none
          have digits := List.all_eq_true.2 (Bytes.forall_isDigit_iff.1 none)
          rw [digits] at other
          cases other
      · next digits =>
          simp only [Bool.not_eq_true', Bool.not_eq_false, List.all_eq_true] at digits
          obtain ⟨n, spells⟩ : ∃ n, Spells (Text.trim text) n :=
            ⟨_, spells_iff.2 ⟨nonempty, digits, rfl⟩⟩
          rw [spells.ofRadix_eq]
          split
          · next fits => exact .inr (.inr (.inr ⟨⟨n, fits⟩, spells, rfl⟩))
          · next large => exact .inr (.inr (.inl ⟨n, spells, Nat.not_lt.1 large, rfl⟩))

section Iff

theorem parse_eq_empty_iff : parse text = .error .empty ↔ Text.trim text = "" := by
  rcases parse_cases text with ⟨empty, read⟩ | ⟨nonempty, -, read⟩ | ⟨n, spells, -, read⟩ |
    ⟨a, spells, read⟩
  · simp [empty, read]
  · simp [nonempty, read]
  · simp [spells.1, read]
  · simp [spells.1, read]

theorem parse_eq_notInteger_iff {v : String} :
    parse text = .error (.notInteger v) ↔
      v = Text.trim text ∧ v ≠ "" ∧ ∃ b ∈ Bytes.ofString v, ¬ Bytes.IsDigit b := by
  rcases parse_cases text with ⟨empty, read⟩ | ⟨nonempty, other, read⟩ | ⟨n, spells, -, read⟩ |
    ⟨a, spells, read⟩
  · rw [read, empty]
    refine iff_of_false nofun ?_
    intro ⟨same, nonempty, _⟩
    exact nonempty same
  · rw [read]
    constructor
    · intro same
      cases same
      exact ⟨rfl, nonempty, other⟩
    · rintro ⟨rfl, -, -⟩
      rfl
  all_goals
    rw [read]
    refine iff_of_false nofun ?_
    rintro ⟨rfl, -, b, mem, other⟩
    exact other (spells.2.1 b mem)

theorem parse_eq_overflow_iff :
    parse text = .error .overflow ↔ ∃ n, Spells (Text.trim text) n ∧ 2 ^ width ≤ n := by
  rcases parse_cases text with ⟨empty, read⟩ | ⟨-, ⟨b, mem, other⟩, read⟩ | ⟨n, spells, large, read⟩ |
    ⟨a, spells, read⟩
  · rw [read]
    refine iff_of_false nofun ?_
    intro ⟨n, spells, _⟩
    exact spells.1 empty
  · rw [read]
    refine iff_of_false nofun ?_
    intro ⟨n, spells, _⟩
    exact other (spells.2.1 b mem)
  · exact iff_of_true read ⟨n, spells, large⟩
  · rw [read]
    refine iff_of_false nofun ?_
    intro ⟨n, spells', large⟩
    rw [← spells.unique spells'] at large
    exact absurd a.toNat_lt (Nat.not_lt.2 large)

theorem parse_eq_ok_iff : parse text = .ok a ↔ Spells (Text.trim text) a.toNat := by
  rcases parse_cases text with ⟨empty, read⟩ | ⟨-, ⟨b, mem, other⟩, read⟩ | ⟨n, spells, large, read⟩ |
    ⟨a', spells, read⟩
  · rw [read]
    exact iff_of_false nofun fun spells => spells.1 empty
  · rw [read]
    exact iff_of_false nofun fun spells => other (spells.2.1 b mem)
  · rw [read]
    refine iff_of_false nofun ?_
    intro spells'
    rw [spells.unique spells'] at large
    exact absurd a.toNat_lt (Nat.not_lt.2 large)
  · rw [read, Except.ok.injEq]
    constructor
    · rintro rfl
      exact spells
    · intro spells'
      exact toNat_inj.1 (spells.unique spells')

/-- What becomes of an amount that is to be transferred. -/
theorem parseTransfer_eq (text : String) :
    parseTransfer text =
      (parse text).bind fun a => if a.toNat = 0 then .error .notPositive else .ok a := by
  have refuses (a : MinorUnits) : a.le zero = true ↔ a.toNat = 0 := by
    rw [le, decide_eq_true_eq]
    exact Nat.le_zero
  unfold parseTransfer
  simp only [refuses]
  rfl

theorem parseTransfer_eq_ok_iff :
    parseTransfer text = .ok a ↔ Spells (Text.trim text) a.toNat ∧ 0 < a.toNat := by
  rw [parseTransfer_eq, bind_eq_ok_iff, ← parse_eq_ok_iff]
  constructor
  · rintro ⟨a', read, kept⟩
    split at kept
    · cases kept
    · next some_ =>
        cases kept
        exact ⟨read, Nat.pos_of_ne_zero some_⟩
  · intro ⟨read, some_⟩
    exact ⟨a, read, if_neg some_.ne'⟩

theorem parseTransfer_eq_error_iff {e : AmountError} :
    parseTransfer text = .error e ↔
      parse text = .error e ∨ Spells (Text.trim text) 0 ∧ e = .notPositive := by
  rw [parseTransfer_eq, bind_eq_error_iff]
  apply or_congr_right
  constructor
  · rintro ⟨a, read, refused⟩
    split at refused
    · next none =>
        cases refused
        rw [← none, ← parse_eq_ok_iff]
        exact ⟨read, rfl⟩
    · cases refused
  · rintro ⟨none, rfl⟩
    exact ⟨zero, parse_eq_ok_iff.2 none, rfl⟩

end Iff

section Digits

/-- The digits of an amount spell it, and so they do behind any number of zeros. -/
theorem spells_digits (a : MinorUnits) (zeros : Nat) :
    Spells (String.ofList (List.replicate zeros '0' ++ a.digits)) a.toNat := by
  rw [spells_iff, String.toList_ofList, Nat.ofDigitChars_append, Nat.ofDigitChars_replicate_zero,
    Nat.mul_zero, digits, Nat.ofDigitChars_ten_toDigits]
  refine ⟨?_, ?_, rfl⟩
  · intro none
    exact Nat.toDigits_ne_nil (List.append_eq_nil_iff.1 none).2
  · intro c mem
    obtain zero | own := List.mem_append.1 mem
    · exact isDigit_replicate zero
    · exact isDigit_toDigits own

theorem Spells.trim_eq (spells : Spells core n) : Text.trim core = core := by
  apply Text.trim_of_solid
  intro c mem
  exact Text.isBlank_of_isDigit (spells.digits c mem)

end Digits

/-- A text is read as what is left of it without the blanks around it: nothing at all, bytes of which
one is no digit, or digits, whose number is an amount if and only if it is below `2 ^ 256`. An amount
that is to be transferred is read likewise, but for the number zero in any spelling. The digits of every
amount are read as that amount, with any number of zeros in front. -/
theorem reads_numerals :
    (∀ text : String,
      (∀ core : String,
        core = Text.trim text ↔ Text.Bare core.toList ∧ Text.Surrounds text core) ∧
      (parse text = .error .empty ↔ Text.trim text = "") ∧
      (∀ v : String, parse text = .error (.notInteger v) ↔
        v = Text.trim text ∧ v ≠ "" ∧ ∃ b ∈ Bytes.ofString v, ¬ Bytes.IsDigit b) ∧
      (parse text = .error .overflow ↔ ∃ n, Spells (Text.trim text) n ∧ 2 ^ width ≤ n) ∧
      (∀ a : MinorUnits, parse text = .ok a ↔ Spells (Text.trim text) a.toNat) ∧
      (∀ a : MinorUnits,
        parseTransfer text = .ok a ↔ Spells (Text.trim text) a.toNat ∧ 0 < a.toNat) ∧
      ∀ e : AmountError, parseTransfer text = .error e ↔
        parse text = .error e ∨ Spells (Text.trim text) 0 ∧ e = .notPositive) ∧
    ∀ (a : MinorUnits) (zeros : Nat),
      parse (String.ofList (List.replicate zeros '0' ++ (toString a).toList)) = .ok a := by
  refine ⟨fun text => ⟨fun core => ?_, parse_eq_empty_iff, fun v => parse_eq_notInteger_iff,
    parse_eq_overflow_iff, fun a => parse_eq_ok_iff, fun a => parseTransfer_eq_ok_iff,
    fun e => parseTransfer_eq_error_iff⟩, fun a zeros => ?_⟩
  · rw [eq_comm, Text.trim_eq_iff]
  · have spells := a.spells_digits zeros
    have written : (toString a).toList = a.digits := String.toList_ofList
    rw [parse_eq_ok_iff, written, spells.trim_eq]
    exact spells

example : parse "	000115792089237316195423570985008687907853269984665640564039457584007913129639936
" =
    .error .overflow := by
  decide +kernel

end MinorUnits

end TokenFaucet
