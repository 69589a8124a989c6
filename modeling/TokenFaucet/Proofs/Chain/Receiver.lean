import TokenFaucet.Chain.Basic
import TokenFaucet.Proofs.Evm.Address
import TokenFaucet.Proofs.Solana.Address

set_option autoImplicit false

namespace TokenFaucet

namespace Evm.Address

/-- The digits of addresses, capitals and small letters alike. -/
def digitChars : List Char := "0123456789abcdefABCDEF".toList

theorem hexDigit?_isSome_iff {c : Char} : (Text.hexDigit? c).isSome = true ↔ c ∈ digitChars := by
  have all : ∀ n < 128, (Text.hexDigit? (Char.ofNat n)).isSome = true →
      Char.ofNat n ∈ digitChars := by decide
  have read : digitChars.all (fun c => (Text.hexDigit? c).isSome) = true := by decide
  constructor
  · intro some
    obtain ⟨d, digit⟩ := Option.isSome_iff_exists.1 some
    have known := all c.toNat (Bytes.Hex.hexDigit?_lt digit).2
    rw [Char.ofNat_toNat] at known
    exact known some
  · exact List.all_eq_true.1 read c

theorem isValid_marked_iff {ds : List Char} :
    isValid ("0x" ++ String.ofList ds) = true ↔
      ds.length = 40 ∧ (∀ c ∈ ds, c ∈ digitChars) ∧ ∃ c ∈ ds, c ≠ '0' := by
  have chars : ("0x" ++ String.ofList ds).toList = '0' :: 'x' :: ds := by simp
  simp only [isValid, chars, Bool.and_eq_true, beq_iff_eq, List.all_eq_true, List.any_eq_true,
    bne_iff_ne, hexDigit?_isSome_iff, and_assoc]

/-- The receivers on EVM chains: `0x` and 40 digits, not all of them zero. -/
theorem isValid_iff {s : String} :
    isValid s = true ↔ ∃ ds, s = "0x" ++ String.ofList ds ∧ ds.length = 40 ∧
      (∀ c ∈ ds, c ∈ digitChars) ∧ ∃ c ∈ ds, c ≠ '0' := by
  constructor
  · intro valid
    obtain ⟨ds, rfl, -⟩ := marked_of_isValid valid
    exact ⟨ds, rfl, isValid_marked_iff.1 valid⟩
  · rintro ⟨ds, rfl, digits⟩
    exact isValid_marked_iff.2 digits

end Evm.Address

namespace Near.AccountId

/-- The characters of names. -/
def nameChars : List Char := "abcdefghijklmnopqrstuvwxyz0123456789-_".toList

theorem isNameChar_iff {c : Char} : isNameChar c = true ↔ c ∈ nameChars := by
  have all : ∀ n < 128, isNameChar (Char.ofNat n) = true → Char.ofNat n ∈ nameChars := by decide
  have named : nameChars.all isNameChar = true := by decide
  constructor
  · intro char
    have ascii : c.toNat < 128 := by
      simp only [isNameChar, Bool.or_eq_true, Bool.and_eq_true, decide_eq_true_eq, Char.le_def,
        UInt32.le_iff_toNat_le, beq_iff_eq] at char
      rcases char with ((small | digit) | rfl) | rfl
      · exact Nat.lt_of_le_of_lt small.2 (by decide)
      · exact Nat.lt_of_le_of_lt digit.2 (by decide)
      · decide
      · decide
    have known := all c.toNat ascii
    rw [Char.ofNat_toNat] at known
    exact known char
  · exact List.all_eq_true.1 named c

variable {ending cs rest : List Char}

theorem withoutEnding?_append (rest ending : List Char) :
    withoutEnding? ending (rest ++ ending) = some rest := by
  rw [withoutEnding?, if_pos (List.isSuffixOf_iff_suffix.2 (List.suffix_append rest ending))]
  simp

theorem withoutEnding?_eq_some_iff : withoutEnding? ending cs = some rest ↔ cs = rest ++ ending := by
  constructor
  · intro found
    unfold withoutEnding? at found
    split at found
    · next suffix =>
        obtain ⟨front, rfl⟩ := List.isSuffixOf_iff_suffix.1 suffix
        simp at found
        rw [found]
    · cases found
  · rintro rfl
    exact withoutEnding?_append rest ending

theorem withoutEnding?_eq_none_iff : withoutEnding? ending cs = none ↔ ¬ ending <:+ cs := by
  rw [withoutEnding?, ← List.isSuffixOf_iff_suffix]
  simp

/-- The top-level accounts that a name may stand under, with the dot; most names stand under one. -/
def endings : List String := ["", ".testnet", ".near"]

theorem not_suffix_of_dot {top : List Char} (dotted : '.' ∈ top)
    (chars : ∀ c ∈ cs, c ∈ nameChars) : ¬ top <:+ cs := by
  intro suffix
  have dot := chars '.' (suffix.subset dotted)
  exact absurd dot (by decide)

/-- The name is what is left without the ending, whichever ending it has. -/
theorem name_append (chars : ∀ c ∈ rest, c ∈ nameChars) {top : String} (known : top ∈ endings) :
    name (rest ++ top.toList) = rest := by
  simp only [endings, List.mem_cons, List.not_mem_nil, or_false] at known
  rcases known with rfl | rfl | rfl
  · have noTestnet : withoutEnding? ".testnet".toList rest = none :=
      withoutEnding?_eq_none_iff.2 (not_suffix_of_dot (by decide) chars)
    have noNear : withoutEnding? ".near".toList rest = none :=
      withoutEnding?_eq_none_iff.2 (not_suffix_of_dot (by decide) chars)
    rw [String.toList_empty, List.append_nil, name, noTestnet, noNear]
  · rw [name, withoutEnding?_append]
  · have noTestnet : withoutEnding? ".testnet".toList (rest ++ ".near".toList) = none := by
      rw [withoutEnding?_eq_none_iff]
      rintro ⟨front, same⟩
      have last := congrArg List.getLast? same
      simp at last
    rw [name, noTestnet, withoutEnding?_append]

/-- A text is its name and an ending. -/
theorem exists_ending (cs : List Char) : ∃ top ∈ endings, cs = name cs ++ top.toList := by
  unfold name
  split
  · next rest found => exact ⟨".testnet", by simp [endings], withoutEnding?_eq_some_iff.1 found⟩
  · split
    · next rest found => exact ⟨".near", by simp [endings], withoutEnding?_eq_some_iff.1 found⟩
    · exact ⟨"", by simp [endings], by simp⟩

/-- The receivers on NEAR: a name that is not empty, alone or under a top-level account. -/
theorem isValid_iff {s : String} :
    isValid s = true ↔ 2 ≤ s.utf8ByteSize ∧ s.utf8ByteSize ≤ 64 ∧
      ∃ cs top, s = String.ofList cs ++ top ∧ cs ≠ [] ∧ (∀ c ∈ cs, c ∈ nameChars) ∧
        top ∈ endings := by
  simp only [isValid, Bool.and_eq_true, decide_eq_true_eq, Bool.not_eq_true', List.isEmpty_eq_false_iff,
    List.all_eq_true, isNameChar_iff, and_assoc]
  refine and_congr_right fun _ => and_congr_right fun _ => ⟨?_, ?_⟩
  · rintro ⟨named, chars⟩
    obtain ⟨top, known, same⟩ := exists_ending s.toList
    refine ⟨name s.toList, top, ?_, named, chars, known⟩
    rw [← String.toList_inj, String.toList_append, String.toList_ofList]
    exact same
  · rintro ⟨cs, top, rfl, named, chars, known⟩
    rw [String.toList_append, String.toList_ofList, name_append chars known]
    exact ⟨named, chars⟩

end Near.AccountId

namespace Solana.Address

theorem size_text (a : Solana.Address) : 32 ≤ a.text.utf8ByteSize ∧ a.text.utf8ByteSize ≤ 44 := by
  have bounds := Bytes.Base58.size_encode (Nat.le_of_eq a.length_bytes)
  rwa [a.length_bytes] at bounds

/-- The check of the length refuses nothing that is read as an account. -/
theorem isValid_iff_parse? {s : String} :
    isValid s = true ↔ ∃ a, parse? s = some a ∧ ∃ b ∈ a.bytes, b ≠ 0 := by
  cases read : parse? s with
  | none => simp [isValid, read]
  | some a =>
      have size := size_text a
      rw [parse?_eq_some_iff.1 read] at size
      simp [isValid, read, size]

/-- The receivers on Solana: what is written for 32 bytes that are not all zero. -/
theorem isValid_iff {s : String} :
    isValid s = true ↔ ∃ key : Bytes, key.length = 32 ∧ (∃ b ∈ key, b ≠ 0) ∧
      Bytes.Base58.encode key = s := by
  rw [isValid_iff_parse?]
  constructor
  · rintro ⟨a, read, other⟩
    exact ⟨a.bytes, a.length_bytes, other, parse?_eq_some_iff.1 read⟩
  · rintro ⟨key, length, other, written⟩
    exact ⟨⟨key, length⟩, parse?_eq_some_iff.2 written, other⟩

end Solana.Address

/-- The languages of addresses. -/
def ChainKind.Names : ChainKind → String → Prop
  | .evm, s => ∃ ds, s = "0x" ++ String.ofList ds ∧ ds.length = 40 ∧
      (∀ c ∈ ds, c ∈ Evm.Address.digitChars) ∧ ∃ c ∈ ds, c ≠ '0'
  | .solana, s => ∃ key : Bytes, key.length = 32 ∧ (∃ b ∈ key, b ≠ 0) ∧
      Bytes.Base58.encode key = s
  | .near, s => 2 ≤ s.utf8ByteSize ∧ s.utf8ByteSize ≤ 64 ∧
      ∃ cs top, s = String.ofList cs ++ top ∧ cs ≠ [] ∧
        (∀ c ∈ cs, c ∈ Near.AccountId.nameChars) ∧ top ∈ Near.AccountId.endings

/-- A chain accepts exactly the texts of its family's language as receivers. On Solana, every key has
one spelling, of 32 to 44 characters, and that one is accepted unless the key is all zeros. -/
theorem isReceiver_iff_names :
    (∀ (c : Chain) (s : String), c.isReceiver s = true ↔ c.kind.Names s) ∧
    ∀ a : Solana.Address, 32 ≤ a.text.utf8ByteSize ∧ a.text.utf8ByteSize ≤ 44 ∧
      ∀ s, (Solana.Address.isValid s = true ∧ Solana.Address.parse? s = some a ↔
        s = a.text ∧ ∃ b ∈ a.bytes, b ≠ 0) := by
  constructor
  · intro c s
    cases c with
    | evm c => exact Evm.Address.isValid_iff
    | solana c => exact Solana.Address.isValid_iff
    | near c => exact Near.AccountId.isValid_iff
  · intro a
    refine ⟨a.size_text.1, a.size_text.2, fun s => ?_⟩
    constructor
    · rintro ⟨valid, read⟩
      obtain ⟨_, read', other⟩ := Solana.Address.isValid_iff_parse?.1 valid
      cases read.symm.trans read'
      exact ⟨(Solana.Address.parse?_eq_some_iff.1 read).symm, other⟩
    · rintro ⟨rfl, other⟩
      have read := Solana.Address.parse?_eq_some_iff.2 (Eq.refl a.text)
      exact ⟨Solana.Address.isValid_iff_parse?.2 ⟨a, read, other⟩, read⟩

end TokenFaucet
