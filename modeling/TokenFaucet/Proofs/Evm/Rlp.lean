import TokenFaucet.Evm.Rlp
import TokenFaucet.Proofs.Bytes.Number

set_option autoImplicit false

attribute [local instance (2000)] instPowNat

namespace TokenFaucet.Evm.Rlp

/-- The most bytes that the length of an item is written in. -/
def lengthWidth : Nat := 8

/-- So many bytes, and what follows them. -/
def split? (count : Nat) (bs : Bytes) : Option (Bytes × Bytes) :=
  if count ≤ bs.length then some (bs.take count, bs.drop count) else none

/-- A payload behind a length that is itself so many bytes long. -/
def long? (lengthBytes : Nat) (bs : Bytes) : Option (Bytes × Bytes) :=
  (split? lengthBytes bs).bind fun (digits, rest) => split? digits.toNat rest

/-- The first string or list in bytes: whether it is a list, its payload, and what follows it. -/
def payload? : Bytes → Option (Bool × Bytes × Bytes)
  | [] => none
  | b :: rest =>
    if b.toNat < 0x80 then some (false, [b], rest)
    else if b.toNat < 0xB8 then (split? (b.toNat - 0x80) rest).map (false, ·)
    else if b.toNat < 0xC0 then (long? (b.toNat - 0xB7) rest).map (false, ·)
    else if b.toNat < 0xF8 then (split? (b.toNat - 0xC0) rest).map (true, ·)
    else (long? (b.toNat - 0xF7) rest).map (true, ·)

mutual

/-- Reads the first item of bytes. Each item takes one unit of fuel, and nested ones what is left. -/
def readItem : Nat → Bytes → Option (Rlp × Bytes)
  | 0, _ => none
  | fuel + 1, bs =>
    match payload? bs with
    | none => none
    | some (false, payload, rest) => some (.bytes payload, rest)
    | some (true, payload, rest) => (readItems fuel payload).map fun items => (.list items, rest)

def readItems : Nat → Bytes → Option (List Rlp)
  | _, [] => some []
  | 0, _ :: _ => none
  | fuel + 1, b :: bs =>
    match readItem fuel (b :: bs) with
    | none => none
    | some (item, rest) => (readItems fuel rest).map (item :: ·)

end

/-- Reads the one item that bytes are. -/
def decode? (bs : Bytes) : Option Rlp :=
  match readItem (2 * bs.length) bs with
  | some (item, []) => some item
  | _ => none

theorem split?_append (bs rest : Bytes) : split? bs.length (bs ++ rest) = some (bs, rest) := by
  simp [split?]

theorem long?_minimal (payload rest : Bytes) :
    long? (Bytes.minimal payload.length).length
        (Bytes.minimal payload.length ++ (payload ++ rest)) = some (payload, rest) := by
  rw [long?, split?_append]
  change split? (Bytes.minimal payload.length).toNat _ = _
  rw [Bytes.toNat_minimal, split?_append]

theorem width_le_eight {length : Nat} (short : length < 256 ^ lengthWidth) :
    Bytes.width length ≤ 8 :=
  Bytes.width_le short

theorem payload?_list (payload rest : Bytes) (short : payload.length < 256 ^ lengthWidth) :
    payload? (header 0xC0 payload.length ++ (payload ++ rest)) = some (true, payload, rest) := by
  unfold header
  split
  · next small =>
      have byte : (UInt8.ofNat (0xC0 + payload.length)).toNat = 0xC0 + payload.length :=
        UInt8.toNat_ofNat_of_lt' (Nat.lt_of_lt_of_le (by omega) (Nat.le_refl 256))
      rw [List.singleton_append, payload?, byte, if_neg (by omega), if_neg (by omega),
        if_neg (by omega), if_pos (by omega), Nat.add_sub_cancel_left, split?_append]
      rfl
  · next large =>
      have wide := width_le_eight short
      have more := Bytes.width_pos (n := payload.length) (by omega)
      rw [← Bytes.length_minimal] at wide more
      have byte : (UInt8.ofNat (0xC0 + 55 + (Bytes.minimal payload.length).length)).toNat =
          0xC0 + 55 + (Bytes.minimal payload.length).length :=
        UInt8.toNat_ofNat_of_lt' (Nat.lt_of_lt_of_le (by omega) (Nat.le_refl 256))
      rw [List.cons_append, payload?, byte, if_neg (by omega), if_neg (by omega),
        if_neg (by omega), if_neg (by omega), Nat.add_sub_cancel_left, long?_minimal]
      rfl

theorem payload?_string (payload rest : Bytes) (short : payload.length < 256 ^ lengthWidth) :
    payload? (header 0x80 payload.length ++ (payload ++ rest)) = some (false, payload, rest) := by
  unfold header
  split
  · next small =>
      have byte : (UInt8.ofNat (0x80 + payload.length)).toNat = 0x80 + payload.length :=
        UInt8.toNat_ofNat_of_lt' (Nat.lt_of_lt_of_le (by omega) (Nat.le_refl 256))
      rw [List.singleton_append, payload?, byte, if_neg (by omega), if_pos (by omega),
        Nat.add_sub_cancel_left, split?_append]
      rfl
  · next large =>
      have wide := width_le_eight short
      have more := Bytes.width_pos (n := payload.length) (by omega)
      rw [← Bytes.length_minimal] at wide more
      have byte : (UInt8.ofNat (0x80 + 55 + (Bytes.minimal payload.length).length)).toNat =
          0x80 + 55 + (Bytes.minimal payload.length).length :=
        UInt8.toNat_ofNat_of_lt' (Nat.lt_of_lt_of_le (by omega) (Nat.le_refl 256))
      rw [List.cons_append, payload?, byte, if_neg (by omega), if_neg (by omega), if_pos (by omega),
        Nat.add_sub_cancel_left, long?_minimal]
      rfl

theorem payload?_encodeBytes (bs rest : Bytes) (short : bs.length < 256 ^ lengthWidth) :
    payload? (encodeBytes bs ++ rest) = some (false, bs, rest) := by
  unfold encodeBytes
  split
  · next b =>
      split
      · next low =>
          have byte : b.toNat < 0x80 := UInt8.lt_iff_toNat_lt.1 low
          rw [List.singleton_append, payload?, if_pos byte]
      · rw [List.append_assoc]
        exact payload?_string [b] rest short
  · rw [List.append_assoc]
    exact payload?_string bs rest short

theorem header_length_le (offset : Nat) {length : Nat} (short : length < 256 ^ lengthWidth) :
    (header offset length).length ≤ 9 := by
  unfold header
  split
  · simp
  · have wide := width_le_eight short
    rw [List.length_cons, Bytes.length_minimal]
    omega

theorem encodeBytes_length_le {bs : Bytes} (short : bs.length < 256 ^ lengthWidth) :
    (encodeBytes bs).length ≤ bs.length + 9 := by
  unfold encodeBytes
  split
  · split
    · simp
    · have head := header_length_le 0x80 (show 1 < 256 ^ lengthWidth by decide)
      simp only [List.length_append, List.length_singleton]
      omega
  · have head := header_length_le 0x80 short
    rw [List.length_append]
    omega

theorem header_length_pos (offset length : Nat) : 0 < (header offset length).length := by
  unfold header
  split <;> simp

theorem encodeBytes_length_pos (bs : Bytes) : 0 < (encodeBytes bs).length := by
  unfold encodeBytes
  split
  · split
    · simp
    · have pos := header_length_pos 0x80 1
      rw [List.length_append]
      omega
  · have pos := header_length_pos 0x80 bs.length
    rw [List.length_append]
    omega

theorem encode_length_pos (item : Rlp) : 0 < item.encode.length := by
  cases item with
  | bytes bs =>
      rw [encode]
      exact encodeBytes_length_pos bs
  | list items =>
      have pos := header_length_pos 0xC0 (encodeAll items).length
      rw [encode]
      simp only [List.length_append]
      omega

mutual

/-- No payload is longer than a length can say. -/
def Fits : Rlp → Prop
  | .bytes bs => bs.length < 256 ^ lengthWidth
  | .list items => (encodeAll items).length < 256 ^ lengthWidth ∧ AllFit items

def AllFit : List Rlp → Prop
  | [] => True
  | item :: rest => Fits item ∧ AllFit rest

end

mutual

theorem readItem_encode (item : Rlp) (rest : Bytes) (fuel : Nat) (fits : Fits item)
    (enough : 2 * item.encode.length ≤ fuel + 1) :
    readItem fuel (item.encode ++ rest) = some (item, rest) := by
  have pos := encode_length_pos item
  match fuel, item with
  | 0, item => omega
  | fuel + 1, .bytes bs =>
      rw [encode, readItem, payload?_encodeBytes bs rest fits]
  | fuel + 1, .list items =>
      have head := header_length_pos 0xC0 (encodeAll items).length
      simp only [encode, List.length_append] at enough
      rw [encode, readItem, List.append_assoc, payload?_list (encodeAll items) rest fits.1]
      dsimp only
      rw [readItems_encodeAll items fuel fits.2 (by omega)]
      rfl

theorem readItems_encodeAll (items : List Rlp) (fuel : Nat) (fits : AllFit items)
    (enough : 2 * (encodeAll items).length ≤ fuel) :
    readItems fuel (encodeAll items) = some items := by
  match items with
  | [] => rw [encodeAll, readItems]
  | item :: rest =>
      have pos := encode_length_pos item
      simp only [encodeAll, List.length_append] at enough
      match fuel with
      | 0 => omega
      | fuel + 1 =>
          rw [encodeAll]
          have first := readItem_encode item (encodeAll rest) fuel fits.1 (by omega)
          have others := readItems_encodeAll rest fuel fits.2 (by omega)
          cases bytes : item.encode ++ encodeAll rest with
          | nil =>
              have length := congrArg List.length bytes
              rw [List.length_append, List.length_nil] at length
              omega
          | cons b bs =>
              rw [bytes] at first
              rw [readItems, first]
              dsimp only
              rw [others]
              rfl

end

/-- An item is read back from its bytes, and nothing is left of them. -/
theorem decode?_encode {item : Rlp} (fits : Fits item) : decode? item.encode = some item := by
  have read := readItem_encode item [] (2 * item.encode.length) fits (Nat.le_succ _)
  rw [List.append_nil] at read
  rw [decode?, read]

end TokenFaucet.Evm.Rlp
