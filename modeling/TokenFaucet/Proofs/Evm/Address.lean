import TokenFaucet.Evm.Chain
import TokenFaucet.Proofs.Bytes.Hex
import TokenFaucet.Proofs.Result

set_option autoImplicit false

namespace TokenFaucet

theorem Hash.length_keccak256 (message : Bytes) : (Hash.keccak256 message).length = 32 := by
  simp only [Hash.keccak256, List.length_flatMap, Bytes.length_littleEndian, List.map_const',
    List.length_take, Vector.length_toList]
  rfl

theorem Evm.Address.parse_eq_ok_iff {text : String} {a : Evm.Address} :
    Evm.Address.parse text = .ok a ↔ Bytes.Hex.decodeExact 20 text = .ok a.bytes := by
  refine bind_eq_ok_iff.trans ⟨?_, ?_⟩
  · rintro ⟨bs, decoded, sized⟩
    unfold Evm.Address.ofBytes? at sized
    split at sized
    · next same =>
        cases sized
        split at same
        · cases same
          exact decoded
        · cases same
    · cases sized
  · intro decoded
    refine ⟨a.bytes, decoded, ?_⟩
    rw [Evm.Address.ofBytes?, dif_pos a.length_bytes]
    rfl

namespace Evm.Address

/-- A digit that is written for bytes has the same value as a capital. -/
theorem hexDigit?_toUpper {bs : Bytes} {c : Char} (mem : c ∈ bs.flatMap Bytes.Hex.digits) :
    Text.hexDigit? c.toUpper = Text.hexDigit? c ∧ c.toNat < 128 ∧ c.toUpper.toNat < 128 := by
  have all : ∀ n < 16, Text.hexDigit? (Nat.digitChar n).toUpper = Text.hexDigit? (Nat.digitChar n) ∧
      (Nat.digitChar n).toNat < 128 ∧ (Nat.digitChar n).toUpper.toNat < 128 := by decide
  obtain ⟨b, -, digit⟩ := List.mem_flatMap.1 mem
  have byte := b.toNat_lt
  simp only [Bytes.Hex.digits, List.mem_cons, List.not_mem_nil, or_false] at digit
  obtain rfl | rfl := digit
  · exact all _ (by omega)
  · exact all _ (by omega)

theorem hexDigit?_isSome {bs : Bytes} {c : Char} (mem : c ∈ bs.flatMap Bytes.Hex.digits) :
    (Text.hexDigit? c).isSome = true := by
  have all : ∀ n < 16, (Text.hexDigit? (Nat.digitChar n)).isSome = true := by decide
  obtain ⟨b, -, digit⟩ := List.mem_flatMap.1 mem
  have byte := b.toNat_lt
  simp only [Bytes.Hex.digits, List.mem_cons, List.not_mem_nil, or_false] at digit
  obtain rfl | rfl := digit
  · exact all _ (by omega)
  · exact all _ (by omega)

/-- A digit of a checksum text: a capital where the hash says so. -/
def checksumDigit (digit : Char × Char) : Char :=
  if 8 ≤ (Text.hexDigit? digit.2).getD 0 then digit.1.toUpper else digit.1

theorem ascii_digits {bs : Bytes} {c : Char} (mem : c ∈ bs.flatMap Bytes.Hex.digits) :
    c.toNat < 128 :=
  (hexDigit?_toUpper mem).2.1

theorem map_digit?_ascii {cs : List Char} (ascii : ∀ c ∈ cs, c.toNat < 128) :
    (cs.map fun c => UInt8.ofNat c.toNat).map Bytes.Hex.digit? = cs.map Text.hexDigit? := by
  rw [List.map_map]
  exact List.map_congr_left fun c mem => Bytes.Hex.digit?_ofNat (ascii c mem)

/-- Capitals among the digits of bytes change neither their number nor their values. -/
theorem checksumDigits {bs : Bytes} {hash : List Char}
    (enough : (bs.flatMap Bytes.Hex.digits).length ≤ hash.length) :
    let cs := ((bs.flatMap Bytes.Hex.digits).zip hash).map checksumDigit
    (∀ c ∈ cs, c.toNat < 128) ∧ cs.map Text.hexDigit? = (bs.flatMap Bytes.Hex.digits).map Text.hexDigit? := by
  constructor
  · intro c mem
    obtain ⟨⟨d, h⟩, digit, rfl⟩ := List.mem_map.1 mem
    obtain ⟨-, ascii, capital⟩ := hexDigit?_toUpper (List.of_mem_zip digit).1
    unfold checksumDigit
    split
    · exact capital
    · exact ascii
  · have first := List.map_fst_zip enough
    rw [← first, List.map_map, List.map_map, first]
    refine List.map_congr_left fun ⟨d, h⟩ digit => ?_
    obtain ⟨same, -, -⟩ := hexDigit?_toUpper (List.of_mem_zip digit).1
    change Text.hexDigit? (checksumDigit (d, h)) = Text.hexDigit? d
    unfold checksumDigit
    split
    · exact same
    · rfl

/-- The digits of a checksum text: those of the account, some of them capitals. -/
theorem checksumText_eq (a : Evm.Address) :
    ∃ hash : List Char, (a.bytes.flatMap Bytes.Hex.digits).length ≤ hash.length ∧
      a.checksumText =
        "0x" ++ String.ofList (((a.bytes.flatMap Bytes.Hex.digits).zip hash).map checksumDigit) := by
  refine ⟨(Bytes.Hex.encode (Hash.keccak256 (Bytes.ofString (Bytes.Hex.encode a.bytes)))).toList, ?_, ?_⟩
  · rw [Bytes.Hex.encode, String.toList_ofList, Bytes.Hex.length_digits, Bytes.Hex.length_digits,
      Hash.length_keccak256, a.length_bytes]
    decide
  · simp only [checksumText, Bytes.Hex.encode, String.toList_ofList]
    rfl

/-- An account is read back from its checksum text. -/
theorem parse_checksumText (a : Evm.Address) : Evm.Address.parse a.checksumText = .ok a := by
  rw [parse_eq_ok_iff]
  obtain ⟨hash, enough, text⟩ := checksumText_eq a
  obtain ⟨ascii, values⟩ := checksumDigits enough
  have read := Bytes.Hex.pairs_encode 0 a.bytes
  have count := congrArg List.length values
  simp only [List.length_map, Bytes.Hex.length_digits, a.length_bytes] at count
  rw [Bytes.Hex.encode, Bytes.ofString_ascii fun c mem => ascii_digits mem] at read
  rw [text, Bytes.Hex.decodeExact, Bytes.Hex.withoutMark_marked, Bytes.ofString_ascii ascii]
  simp only [List.length_map]
  rw [if_neg (by rw [count]; decide), if_neg (by rw [count]; decide)]
  apply Bytes.Hex.pairs_of_same_digits read
  rw [map_digit?_ascii ascii, map_digit?_ascii fun c mem => ascii_digits mem, values]

/-- A checksum text is a mark and digits. -/
theorem checksumText_marked (a : Evm.Address) :
    ∃ ds, a.checksumText = "0x" ++ String.ofList ds ∧
      ∀ c ∈ ds, (Text.hexDigit? c).isSome = true := by
  obtain ⟨hash, enough, text⟩ := checksumText_eq a
  obtain ⟨-, values⟩ := checksumDigits enough
  refine ⟨_, text, fun c mem => ?_⟩
  have value : Text.hexDigit? c ∈ (a.bytes.flatMap Bytes.Hex.digits).map Text.hexDigit? := by
    rw [← values]
    exact List.mem_map_of_mem mem
  obtain ⟨d, digit, same⟩ := List.mem_map.1 value
  rw [← same]
  exact hexDigit?_isSome digit

/-- A valid text is a mark and 40 digits. -/
theorem marked_of_isValid {text : String} (valid : isValid text = true) :
    ∃ ds, text = "0x" ++ String.ofList ds ∧ ds.length = 40 ∧
      ∀ c ∈ ds, (Text.hexDigit? c).isSome = true := by
  unfold isValid at valid
  split at valid
  · next ds chars =>
      simp only [Bool.and_eq_true, beq_iff_eq, List.all_eq_true] at valid
      obtain ⟨⟨length, digits⟩, -⟩ := valid
      refine ⟨ds, ?_, length, digits⟩
      rw [← String.ofList_toList (s := text), chars]
      exact @String.ofList_append ['0', 'x'] ds
  · cases valid

theorem addressWord_eq (a : Evm.Address) :
    Evm.TokenMethod.addressWord a = List.replicate 12 0 ++ a.bytes := by
  rw [Evm.TokenMethod.addressWord, Bytes.padLeft, a.length_bytes]

end Evm.Address

namespace EvmChain

theorem address_eq_ok_iff {text : String} {a : Evm.Address} :
    address text = .ok a ↔ Bytes.Hex.decodeExact 20 text = .ok a.bytes := by
  rw [address, mapError_eq_ok_iff, Evm.Address.parse_eq_ok_iff]

theorem address_ok_iff_spells {text : String} {a : Evm.Address} :
    address text = .ok a ↔ Bytes.Hex.Spells text a.bytes := by
  rw [address_eq_ok_iff, Bytes.Hex.decodeExact_eq_ok_iff, and_iff_left a.length_bytes]

theorem address_of_isValid {text : String} (valid : Evm.Address.isValid text = true) :
    ∃ account, address text = .ok account := by
  obtain ⟨ds, rfl, length, digits⟩ := Evm.Address.marked_of_isValid valid
  obtain ⟨bs, decoded, count⟩ := Bytes.Hex.decodeExact_ok 20 digits length
  exact ⟨⟨bs, count⟩, address_eq_ok_iff.2 decoded⟩

end EvmChain

namespace Evm.Address

variable {ds : List Char} {text : String} {a b : Evm.Address}

theorem bytes_injective (same : a.bytes = b.bytes) : a = b := by
  obtain ⟨_, _⟩ := a
  obtain ⟨_, _⟩ := b
  cases same
  rfl

theorem text_injective (same : a.text = b.text) : a = b :=
  bytes_injective (Bytes.Hex.encode_injective ((String.append_right_inj _).1 same))

theorem lowerAscii_marked (ds : List Char) :
    Text.lowerAscii ("0x" ++ String.ofList ds) = "0x" ++ String.ofList (ds.map Char.toLower) := by
  apply String.toList_inj.1
  simp only [Text.lowerAscii, String.toList_map, String.toList_append, String.toList_ofList,
    List.map_append]
  rfl

/-- A text in lower case is the one of the account that it is read as. -/
theorem lowerAscii_of_parse (digits : ∀ c ∈ ds, (Text.hexDigit? c).isSome = true)
    (read : parse ("0x" ++ String.ofList ds) = .ok a) :
    Text.lowerAscii ("0x" ++ String.ofList ds) = a.text := by
  have ascii : ∀ c ∈ ds, c.toNat < 128 := by
    intro c mem
    obtain ⟨d, value⟩ := Option.isSome_iff_exists.1 (digits c mem)
    exact (Bytes.Hex.hexDigit?_lt value).2
  rw [parse_eq_ok_iff, Bytes.Hex.decodeExact, Bytes.Hex.withoutMark_marked,
    Bytes.ofString_ascii ascii] at read
  split at read
  · cases read
  · split at read
    · cases read
    · rw [lowerAscii_marked, Bytes.Hex.map_toLower_of_pairs digits read]
      rfl

theorem lowerAscii_of_isValid (valid : isValid text = true) (read : parse text = .ok a) :
    Text.lowerAscii text = a.text := by
  obtain ⟨ds, rfl, -, digits⟩ := marked_of_isValid valid
  exact lowerAscii_of_parse digits read

theorem lowerAscii_checksumText (a : Evm.Address) : Text.lowerAscii a.checksumText = a.text := by
  have read := parse_checksumText a
  obtain ⟨ds, spelled, digits⟩ := checksumText_marked a
  rw [spelled] at read ⊢
  exact lowerAscii_of_parse digits read

/-- A valid text is a checksum text up to case if and only if it is read as that account. -/
theorem same_checksumText_iff (valid : isValid text = true) :
    Text.sameIgnoringAsciiCase text a.checksumText = true ↔ parse text = .ok a := by
  rw [Text.sameIgnoringAsciiCase, beq_iff_eq, lowerAscii_checksumText]
  constructor
  · intro same
    obtain ⟨account, read⟩ := EvmChain.address_of_isValid valid
    replace read := mapError_eq_ok_iff.1 read
    have own := lowerAscii_of_isValid valid read
    rw [read, text_injective (own.symm.trans same)]
  · intro read
    exact lowerAscii_of_isValid valid read

end Evm.Address

end TokenFaucet
