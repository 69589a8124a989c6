import TokenFaucet.Bytes.Hex
import TokenFaucet.Proofs.Bytes.Text
import TokenFaucet.Proofs.Result
import TokenFaucet.Proofs.Text.LowerCase

set_option autoImplicit false

namespace TokenFaucet.Bytes.Hex

theorem hexDigit?_lt {c : Char} {d : Nat} (read : Text.hexDigit? c = some d) :
    d < 16 ∧ c.toNat < 128 := by
  have bound {a b : Char} (le : a ≤ b) : a.toNat ≤ b.toNat :=
    UInt32.le_iff_toNat_le.1 (Char.le_def.1 le)
  unfold Text.hexDigit? at read
  split at read
  · next digit =>
      have lower : 48 ≤ c.toNat := bound digit.1
      have upper : c.toNat ≤ 57 := bound digit.2
      cases read
      change c.toNat - 48 < 16 ∧ _
      omega
  · split at read
    · next letter =>
        have lower : 97 ≤ c.toNat := bound letter.1
        have upper : c.toNat ≤ 102 := bound letter.2
        cases read
        change c.toNat - 97 + 10 < 16 ∧ _
        omega
    · split at read
      · next capital =>
          have lower : 65 ≤ c.toNat := bound capital.1
          have upper : c.toNat ≤ 70 := bound capital.2
          cases read
          change c.toNat - 65 + 10 < 16 ∧ _
          omega
      · cases read

theorem digit?_ofNat {c : Char} (ascii : c.toNat < 128) :
    digit? (UInt8.ofNat c.toNat) = Text.hexDigit? c := by
  have byte : c.toNat < UInt8.size := Nat.lt_trans ascii (by decide)
  rw [digit?, UInt8.toNat_ofNat_of_lt' byte, Char.ofNat_toNat]

theorem digitChar_ascii {n : Nat} (small : n < 16) : (Nat.digitChar n).toNat < 128 := by
  have all : ∀ n < 16, (Nat.digitChar n).toNat < 128 := by decide
  exact all n small

theorem digit?_digitChar {n : Nat} (small : n < 16) :
    digit? (UInt8.ofNat (Nat.digitChar n).toNat) = some n := by
  have all : ∀ n < 16, digit? (UInt8.ofNat (Nat.digitChar n).toNat) = some n := by decide
  exact all n small

theorem ofString_encode (bs : Bytes) :
    ofString (encode bs) = bs.flatMap fun b =>
      [UInt8.ofNat (Nat.digitChar (b.toNat / 16)).toNat,
        UInt8.ofNat (Nat.digitChar (b.toNat % 16)).toNat] := by
  rw [encode, ofString_ascii]
  · rw [List.map_flatMap]
    rfl
  · intro c mem
    obtain ⟨b, -, digit⟩ := List.mem_flatMap.1 mem
    have byte := b.toNat_lt
    simp only [digits, List.mem_cons, List.not_mem_nil, or_false] at digit
    obtain rfl | rfl := digit
    · exact digitChar_ascii (by omega)
    · exact digitChar_ascii (by omega)

theorem pairs_encode (index : Nat) (bs : Bytes) : pairs index (ofString (encode bs)) = .ok bs := by
  rw [ofString_encode]
  induction bs generalizing index with
  | nil => rfl
  | cons b rest ih =>
      have byte := b.toNat_lt
      have high : b.toNat / 16 < 16 := by omega
      have low : b.toNat % 16 < 16 := by omega
      rw [List.flatMap_cons, List.cons_append, List.cons_append, List.nil_append, pairs,
        digit?_digitChar high, digit?_digitChar low]
      change (pairs (index + 2) _).bind _ = _
      rw [ih]
      change Except.ok (UInt8.ofNat (16 * (b.toNat / 16) + b.toNat % 16) :: rest) = _
      rw [Nat.div_add_mod, UInt8.ofNat_toNat]

theorem length_ofString_encode (bs : Bytes) : (ofString (encode bs)).length = 2 * bs.length := by
  rw [ofString_encode]
  induction bs with
  | nil => rfl
  | cons b rest ih =>
      rw [List.flatMap_cons, List.length_append, ih, List.length_cons, List.length_cons,
        List.length_nil, List.length_cons]
      omega

theorem withoutMark_marked (s : String) : withoutMark ("0x" ++ s) = ofString s := by
  have ascii : ∀ c ∈ ['0', 'x'], c.toNat < 128 := by
    intro c mem
    simp only [List.mem_cons, List.not_mem_nil, or_false] at mem
    obtain rfl | rfl := mem <;> decide
  have mark : ofString "0x" = [0x30, 0x78] := ofString_ascii ascii
  rw [withoutMark, ofString_append, mark]
  rfl

/-- Marked digits are read back as the bytes that they were written for. -/
theorem decode_encode (bs : Bytes) : decode ("0x" ++ encode bs) = .ok bs := by
  have even : ¬ (ofString (encode bs)).length % 2 = 1 := by
    rw [length_ofString_encode]
    omega
  rw [decode, withoutMark_marked, if_neg even, pairs_encode]

/-- What is read depends on the values of the digits only. -/
theorem pairs_of_same_digits {index : Nat} {ds ds' bs : Bytes} (read : pairs index ds = .ok bs)
    (same : ds'.map digit? = ds.map digit?) : pairs index ds' = .ok bs := by
  match ds, ds' with
  | [], [] => exact read
  | [], _ :: _ => cases same
  | [_], _ => cases read
  | _ :: _ :: _, [] => cases same
  | _ :: _ :: _, [_] => simp at same
  | a :: b :: rest, a' :: b' :: rest' =>
      simp only [List.map_cons, List.cons.injEq] at same
      obtain ⟨first, second, others⟩ := same
      rw [pairs] at read ⊢
      rw [first, second]
      cases high : digit? a with
      | none => simp [high] at read
      | some hi =>
          cases low : digit? b with
          | none => simp [high, low] at read
          | some lo =>
              rw [high, low] at read
              obtain ⟨later, readLater, written⟩ := bind_eq_ok_iff.1 read
              exact bind_eq_ok_iff.2 ⟨later, pairs_of_same_digits readLater others, written⟩

theorem pairs_ok (index : Nat) {ds : List Char}
    (digits : ∀ c ∈ ds, (Text.hexDigit? c).isSome = true) (even : ds.length % 2 = 0) :
    ∃ bs, pairs index (ds.map fun c => UInt8.ofNat c.toNat) = .ok bs ∧ 2 * bs.length = ds.length := by
  match ds with
  | [] => exact ⟨[], rfl, rfl⟩
  | [_] => cases even
  | a :: b :: rest =>
      obtain ⟨hi, first⟩ := Option.isSome_iff_exists.1 (digits a (by simp))
      obtain ⟨lo, second⟩ := Option.isSome_iff_exists.1 (digits b (by simp))
      have others : ∀ c ∈ rest, (Text.hexDigit? c).isSome = true := by
        intro c mem
        exact digits c (by simp [mem])
      have half : rest.length % 2 = 0 := by
        simp only [List.length_cons] at even
        omega
      obtain ⟨bs, read, length⟩ := pairs_ok (index + 2) others half
      refine ⟨UInt8.ofNat (16 * hi + lo) :: bs, ?_, ?_⟩
      · rw [List.map_cons, List.map_cons, pairs, digit?_ofNat (hexDigit?_lt first).2,
          digit?_ofNat (hexDigit?_lt second).2, first, second]
        change (pairs (index + 2) _).bind _ = _
        rw [read]
        rfl
      · simp only [List.length_cons]
        omega

/-- Marked digits of the right number are read. -/
theorem decodeExact_ok (count : Nat) {ds : List Char}
    (digits : ∀ c ∈ ds, (Text.hexDigit? c).isSome = true) (length : ds.length = 2 * count) :
    ∃ bs, decodeExact count ("0x" ++ String.ofList ds) = .ok bs ∧ bs.length = count := by
  have ascii : ∀ c ∈ ds, c.toNat < 128 := by
    intro c mem
    obtain ⟨d, read⟩ := Option.isSome_iff_exists.1 (digits c mem)
    exact (hexDigit?_lt read).2
  have even : ds.length % 2 = 0 := by omega
  obtain ⟨bs, read, size⟩ := pairs_ok 0 digits even
  refine ⟨bs, ?_, by omega⟩
  rw [decodeExact, withoutMark_marked, ofString_ascii ascii]
  simp only [List.length_map]
  rw [if_neg (by omega), if_neg (by omega), read]

/-- A digit in lower case is the one that is written for its value. -/
theorem toLower_of_hexDigit? {c : Char} {d : Nat} (read : Text.hexDigit? c = some d) :
    c.toLower = Nat.digitChar d := by
  have all : ∀ n < 128, ∀ d < 16, Text.hexDigit? (Char.ofNat n) = some d →
      (Char.ofNat n).toLower = Nat.digitChar d := by
    decide
  obtain ⟨small, ascii⟩ := hexDigit?_lt read
  have same := all c.toNat ascii d small
  rw [Char.ofNat_toNat] at same
  exact same read

/-- Digits in lower case are those that are written for the bytes that they are read as. -/
theorem map_toLower_of_pairs {index : Nat} {ds : List Char} {bs : Bytes}
    (chars : ∀ c ∈ ds, (Text.hexDigit? c).isSome = true)
    (read : pairs index (ds.map fun c => UInt8.ofNat c.toNat) = .ok bs) :
    ds.map Char.toLower = bs.flatMap digits := by
  match ds with
  | [] =>
      cases read
      rfl
  | [_] => cases read
  | a :: b :: rest =>
      obtain ⟨hi, first⟩ := Option.isSome_iff_exists.1 (chars a (by simp))
      obtain ⟨lo, second⟩ := Option.isSome_iff_exists.1 (chars b (by simp))
      have others : ∀ c ∈ rest, (Text.hexDigit? c).isSome = true := by
        intro c mem
        exact chars c (by simp [mem])
      obtain ⟨high, ascii⟩ := hexDigit?_lt first
      obtain ⟨low, ascii'⟩ := hexDigit?_lt second
      rw [List.map_cons, List.map_cons, pairs, digit?_ofNat ascii, digit?_ofNat ascii', first,
        second] at read
      obtain ⟨later, readLater, written⟩ := bind_eq_ok_iff.1 read
      cases written
      have byte : (UInt8.ofNat (16 * hi + lo)).toNat = 16 * hi + lo :=
        UInt8.toNat_ofNat_of_lt' (by change _ < 256; omega)
      have upper : (16 * hi + lo) / 16 = hi := by omega
      have lower : (16 * hi + lo) % 16 = lo := by omega
      rw [List.map_cons, List.map_cons, map_toLower_of_pairs others readLater, List.flatMap_cons,
        digits, byte, upper, lower, toLower_of_hexDigit? first, toLower_of_hexDigit? second]
      rfl

theorem length_digits (bs : Bytes) : (bs.flatMap digits).length = 2 * bs.length := by
  induction bs with
  | nil => rfl
  | cons b rest ih =>
      rw [List.flatMap_cons, List.length_append, ih, List.length_cons]
      change 2 + 2 * rest.length = _
      omega

theorem encode_append (bs bs' : Bytes) : encode (bs ++ bs') = encode bs ++ encode bs' := by
  rw [encode, List.flatMap_append, String.ofList_append]
  rfl

theorem encode_injective {bs bs' : Bytes} (same : encode bs = encode bs') : bs = bs' := by
  have read := pairs_encode 0 bs
  rw [same, pairs_encode] at read
  exact (Except.ok.inj read).symm

section Spelling

variable {s : String} {ds : List Char} {bs : Bytes}

/-- A text spells bytes: two digits for each, in either case, and a mark may stand in front of them. -/
inductive Spells : String → Bytes → Prop where
  | bare {ds : List Char} {bs : Bytes} (lower : ds.map Char.toLower = bs.flatMap digits) :
      Spells (String.ofList ds) bs
  | marked {mark : Char} {ds : List Char} {bs : Bytes} (either : mark = 'x' ∨ mark = 'X')
      (lower : ds.map Char.toLower = bs.flatMap digits) :
      Spells (String.ofList ('0' :: mark :: ds)) bs

theorem hexDigit?_of_toLower {c : Char} {d : Nat} (small : d < 16)
    (lower : c.toLower = Nat.digitChar d) : Text.hexDigit? c = some d := by
  have all : ∀ n < 128, ∀ d < 16, (Char.ofNat n).toLower = Nat.digitChar d →
      Text.hexDigit? (Char.ofNat n) = some d := by
    decide
  have ascii : c.toNat < 128 := by
    refine Nat.not_le.1 fun wide => ?_
    rw [← Text.toLower_of_wide wide, lower] at wide
    exact Nat.not_le.2 (digitChar_ascii small) wide
  have read := all c.toNat ascii d small
  rw [Char.ofNat_toNat] at read
  exact read lower

/-- Characters that are the digits of bytes in lower case. -/
theorem forall_hexDigit? (lower : ds.map Char.toLower = bs.flatMap digits) :
    ∀ c ∈ ds, ∃ d, Text.hexDigit? c = some d := by
  intro c mem
  have among : c.toLower ∈ bs.flatMap digits := by
    rw [← lower]
    exact List.mem_map_of_mem mem
  obtain ⟨b, -, own⟩ := List.mem_flatMap.1 among
  have byte := b.toNat_lt
  simp only [digits, List.mem_cons, List.not_mem_nil, or_false] at own
  obtain high | low := own
  · exact ⟨_, hexDigit?_of_toLower (by omega) high⟩
  · exact ⟨_, hexDigit?_of_toLower (by omega) low⟩

theorem digit?_of_pairs {index : Nat} {ds bs : Bytes} (read : pairs index ds = .ok bs) :
    ∀ b ∈ ds, ∃ d, digit? b = some d := by
  match ds with
  | [] => exact nofun
  | [_] => cases read
  | a :: b :: rest =>
      rw [pairs] at read
      cases high : digit? a with
      | none => simp [high] at read
      | some hi =>
          cases low : digit? b with
          | none => simp [high, low] at read
          | some lo =>
              rw [high, low] at read
              obtain ⟨later, readLater, -⟩ := bind_eq_ok_iff.1 read
              have others := digit?_of_pairs readLater
              intro c mem
              simp only [List.mem_cons] at mem
              obtain rfl | rfl | mem := mem
              · exact ⟨hi, high⟩
              · exact ⟨lo, low⟩
              · exact others c mem

theorem ascii_of_digit? {b : UInt8} {d : Nat} (read : digit? b = some d) : b.toNat < 128 := by
  have small := (hexDigit?_lt read).2
  have byte := b.toNat_lt
  rwa [Char.ofNat, dif_pos (show b.toNat.isValidChar from .inl (by omega))] at small

/-- A text of which all bytes are of ASCII has these for characters. -/
theorem exists_chars (ascii : ∀ b ∈ ofString s, b.toNat < 128) :
    ∃ cs : List Char, s = String.ofList cs ∧ (∀ c ∈ cs, c.toNat < 128) ∧
      ofString s = cs.map fun c => UInt8.ofNat c.toNat := by
  have chars := ascii_of_ofString ascii
  refine ⟨s.toList, String.ofList_toList.symm, chars, ?_⟩
  rw [← ofString_ascii chars, String.ofList_toList]

theorem ofNat_toNat_inj {c d : Char} (ascii : c.toNat < 128) (ascii' : d.toNat < 128)
    (same : UInt8.ofNat c.toNat = UInt8.ofNat d.toNat) : c = d := by
  have numbers := congrArg UInt8.toNat same
  rw [UInt8.toNat_ofNat', UInt8.toNat_ofNat'] at numbers
  exact Char.toNat_inj.1 (by omega)

/-- What the characters of pairs are in lower case. -/
theorem map_toLower_of_pairs_map {cs : List Char} (ascii : ∀ c ∈ cs, c.toNat < 128)
    (read : pairs 0 (cs.map fun c => UInt8.ofNat c.toNat) = .ok bs) :
    cs.map Char.toLower = bs.flatMap digits := by
  refine map_toLower_of_pairs (fun c mem => ?_) read
  obtain ⟨d, value⟩ := digit?_of_pairs read _ (List.mem_map_of_mem mem)
  rw [digit?_ofNat (ascii c mem)] at value
  rw [value]
  rfl

theorem withoutMark_cases (s : String) :
    (∃ mark, (mark = 0x78 ∨ mark = 0x58) ∧ ofString s = 0x30 :: mark :: withoutMark s) ∨
      withoutMark s = ofString s := by
  unfold withoutMark
  split
  · next rest same => exact .inl ⟨_, .inl rfl, same⟩
  · next rest same => exact .inl ⟨_, .inr rfl, same⟩
  · exact .inr rfl

theorem ascii_of_pairs {index : Nat} {ds : Bytes} (read : pairs index ds = .ok bs) :
    ∀ b ∈ ds, b.toNat < 128 := by
  intro b mem
  obtain ⟨d, value⟩ := digit?_of_pairs read b mem
  exact ascii_of_digit? value

/-- What is read from a text without its mark. -/
theorem spells_of_pairs (read : pairs 0 (withoutMark s) = .ok bs) : Spells s bs := by
  have digitBytes := ascii_of_pairs read
  obtain ⟨mark, either, same⟩ | same := withoutMark_cases s
  · have ascii : ∀ b ∈ ofString s, b.toNat < 128 := by
      rw [same]
      intro b mem
      simp only [List.mem_cons] at mem
      obtain rfl | rfl | mem := mem
      · decide
      · obtain rfl | rfl := either <;> decide
      · exact digitBytes b mem
    obtain ⟨cs, rfl, chars, bytes⟩ := exists_chars ascii
    rw [bytes] at same
    obtain _ | ⟨zero, _ | ⟨second, ds⟩⟩ := cs
    · cases same
    · simp at same
    simp only [List.map_cons, List.cons.injEq] at same
    obtain ⟨first, marked, rest⟩ := same
    simp only [List.forall_mem_cons] at chars
    obtain ⟨asciiZero, asciiMark, chars⟩ := chars
    obtain rfl : zero = '0' := ofNat_toNat_inj asciiZero (by decide) first
    rw [← rest] at read
    refine .marked ?_ (map_toLower_of_pairs_map chars read)
    obtain rfl | rfl := either
    · exact .inl (ofNat_toNat_inj asciiMark (by decide) marked)
    · exact .inr (ofNat_toNat_inj asciiMark (by decide) marked)
  · rw [same] at read digitBytes
    obtain ⟨cs, rfl, chars, bytes⟩ := exists_chars digitBytes
    rw [bytes] at read
    exact .bare (map_toLower_of_pairs_map chars read)

/-- Digits of bytes in either case are read as the bytes. -/
theorem pairs_of_lower (lower : ds.map Char.toLower = bs.flatMap digits) :
    pairs 0 (ds.map fun c => UInt8.ofNat c.toNat) = .ok bs := by
  have own := pairs_encode 0 bs
  rw [encode, ← lower] at own
  have values : ∀ c ∈ ds, ∃ d, Text.hexDigit? c = some d := forall_hexDigit? lower
  have lowered : ∀ c ∈ ds.map Char.toLower, c.toNat < 128 := by
    intro c mem
    obtain ⟨c, among, rfl⟩ := List.mem_map.1 mem
    obtain ⟨d, value⟩ := values c among
    rw [toLower_of_hexDigit? value]
    exact digitChar_ascii (hexDigit?_lt value).1
  rw [ofString_ascii lowered] at own
  refine pairs_of_same_digits own ?_
  rw [List.map_map, List.map_map, List.map_map]
  refine List.map_congr_left fun c mem => ?_
  obtain ⟨d, value⟩ := values c mem
  obtain ⟨small, ascii⟩ := hexDigit?_lt value
  change digit? (UInt8.ofNat c.toNat) = digit? (UInt8.ofNat c.toLower.toNat)
  rw [digit?_ofNat ascii, value, toLower_of_hexDigit? value, digit?_digitChar small]

theorem Spells.withoutMark_eq (spells : Spells s bs) :
    ∃ ds : List Char, ds.map Char.toLower = bs.flatMap digits ∧
      withoutMark s = ds.map fun c => UInt8.ofNat c.toNat := by
  have ascii {ds : List Char} {bs : Bytes} (lower : ds.map Char.toLower = bs.flatMap digits) :
      ∀ c ∈ ds, c.toNat < 128 := by
    intro c mem
    obtain ⟨d, value⟩ := forall_hexDigit? lower c mem
    exact (hexDigit?_lt value).2
  cases spells with
  | @bare ds _ lower =>
      refine ⟨ds, lower, ?_⟩
      obtain ⟨mark, either, same⟩ | same := withoutMark_cases (String.ofList ds)
      -- a mark is no digit
      · have among : mark ∈ ofString (String.ofList ds) := by simp [same]
        rw [ofString_ascii (ascii lower)] at among
        obtain ⟨c, mem, rfl⟩ := List.mem_map.1 among
        obtain ⟨d, value⟩ := forall_hexDigit? lower c mem
        rw [← digit?_ofNat (hexDigit?_lt value).2] at value
        obtain marked | marked := either <;> rw [marked] at value <;> cases value
      · rw [same, ofString_ascii (ascii lower)]
  | @marked mark ds _ either lower =>
      refine ⟨ds, lower, ?_⟩
      have chars : ∀ c ∈ '0' :: mark :: ds, c.toNat < 128 := by
        simp only [List.forall_mem_cons]
        refine ⟨by decide, ?_, ascii lower⟩
        obtain rfl | rfl := either <;> decide
      rw [withoutMark, ofString_ascii chars]
      obtain rfl | rfl := either <;> rfl

/-- Digits that spell bytes are read as the bytes, and are as many as they should be. -/
theorem Spells.pairs_eq (spells : Spells s bs) :
    pairs 0 (withoutMark s) = .ok bs ∧ (withoutMark s).length = 2 * bs.length := by
  obtain ⟨ds, lower, bytes⟩ := spells.withoutMark_eq
  rw [bytes]
  refine ⟨pairs_of_lower lower, ?_⟩
  rw [List.length_map, ← length_digits, ← lower, List.length_map]

/-- The texts that are read as bytes are those that spell them. -/
theorem decode_eq_ok_iff : decode s = .ok bs ↔ Spells s bs := by
  rw [decode]
  constructor
  · intro read
    split at read
    · cases read
    · exact spells_of_pairs read
  · intro spells
    obtain ⟨read, length⟩ := spells.pairs_eq
    rw [if_neg (by omega), read]

theorem decodeExact_eq_ok_iff {count : Nat} :
    decodeExact count s = .ok bs ↔ Spells s bs ∧ bs.length = count := by
  rw [decodeExact]
  constructor
  · intro read
    split at read
    · cases read
    · split at read
      · cases read
      · have spells := spells_of_pairs read
        exact ⟨spells, by have length := spells.pairs_eq.2; omega⟩
  · rintro ⟨spells, rfl⟩
    obtain ⟨read, length⟩ := spells.pairs_eq
    rw [if_neg (by omega), if_neg (not_not_intro length), read]

end Spelling

end TokenFaucet.Bytes.Hex
