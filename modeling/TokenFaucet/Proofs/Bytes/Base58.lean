import TokenFaucet.Proofs.Bytes.Number
import TokenFaucet.Proofs.Bytes.Text

set_option autoImplicit false

attribute [local instance (2000)] instPowNat

namespace TokenFaucet.Bytes.Base58

/-- The number that digits spell behind a number, the highest first. -/
def value (acc : Nat) (ds : List Nat) : Nat :=
  ds.foldl (fun n d => 58 * n + d) acc

def digitByte (d : Nat) : UInt8 :=
  UInt8.ofNat (digitChar d).toNat

theorem digitChar_ascii {d : Nat} (digit : d < 58) : (digitChar d).toNat < 128 := by
  have all : ∀ d < 58, (digitChar d).toNat < 128 := by decide
  exact all d digit

theorem ascii_of_digits {ds : List Nat} (digits : ∀ d ∈ ds, d < 58) :
    ∀ c ∈ ds.map digitChar, c.toNat < 128 := by
  intro c mem
  obtain ⟨d, digit, rfl⟩ := List.mem_map.1 mem
  exact digitChar_ascii (digits d digit)

theorem digits_zeros_append (count : Nat) {ds : List Nat} (digits : ∀ d ∈ ds, d < 58) :
    ∀ d ∈ List.replicate count 0 ++ ds, d < 58 := by
  intro d mem
  rcases List.mem_append.1 mem with zero | mem
  · rw [List.eq_of_mem_replicate zero]
    decide
  · exact digits d mem

theorem digitByte_eq_one_iff {d : Nat} (digit : d < 58) : digitByte d = 0x31 ↔ d = 0 := by
  have all : ∀ d < 58, digitByte d = 0x31 ↔ d = 0 := by decide
  exact all d digit

theorem digitByte_of_digit? {b : UInt8} {d : Nat} (ascii : ¬ 127 < b.toNat)
    (read : digit? (Char.ofNat b.toNat) = some d) : d < 58 ∧ digitByte d = b := by
  obtain ⟨inside, found, -⟩ := List.findIdx?_eq_some_iff_getElem.1 read
  have char : digitChar d = Char.ofNat b.toNat := by
    rw [digitChar, List.getD_eq_getElem?_getD, List.getElem?_eq_getElem inside]
    exact eq_of_beq found
  have all : ∀ n < 128, (Char.ofNat n).toNat = n := by decide
  refine ⟨inside, ?_⟩
  rw [digitByte, char, all b.toNat (by omega), UInt8.ofNat_toNat]

/-- Bytes that are read as a number are its digits. -/
theorem digits_of_number {index acc n : Nat} {bs : Bytes} (read : number index acc bs = .ok n) :
    ∃ ds, (∀ d ∈ ds, d < 58) ∧ bs = ds.map digitByte ∧ n = value acc ds := by
  induction bs generalizing index acc with
  | nil =>
      cases read
      exact ⟨[], by simp, rfl, rfl⟩
  | cons b rest ih =>
      rw [number] at read
      split at read
      · cases read
      · next ascii =>
          split at read
          · next d digit =>
              obtain ⟨ds, digits, rfl, rfl⟩ := ih read
              obtain ⟨small, rfl⟩ := digitByte_of_digit? ascii digit
              exact ⟨d :: ds, by simpa [small] using digits, rfl, rfl⟩
          · cases read

theorem value_snoc (acc : Nat) (ds : List Nat) (d : Nat) :
    value acc (ds ++ [d]) = 58 * value acc ds + d := by
  rw [value, List.foldl_append]
  rfl

theorem value_zeros (count : Nat) (ds : List Nat) :
    value 0 (List.replicate count 0 ++ ds) = value 0 ds := by
  induction count with
  | zero => rfl
  | succ count ih => exact ih

theorem le_value (acc : Nat) (ds : List Nat) : acc * 58 ^ ds.length ≤ value acc ds := by
  induction ds generalizing acc with
  | nil => exact Nat.le_of_eq (Nat.mul_one acc)
  | cons d rest ih =>
      calc acc * 58 ^ (rest.length + 1)
          = 58 * acc * 58 ^ rest.length := by rw [Nat.pow_succ', Nat.mul_left_comm, Nat.mul_assoc]
        _ ≤ (58 * acc + d) * 58 ^ rest.length := Nat.mul_le_mul_right _ (Nat.le_add_right ..)
        _ ≤ value acc (d :: rest) := ih _

/-- Digits that do not begin with a zero. -/
def Leading (ds : List Nat) : Prop := ds.head? ≠ some 0

theorem pow_le_value {d : Nat} {rest : List Nat} (leading : Leading (d :: rest)) :
    58 ^ rest.length ≤ value 0 (d :: rest) := by
  have first : 0 < d := Nat.pos_of_ne_zero fun zero => leading (by rw [zero]; rfl)
  calc 58 ^ rest.length
      ≤ d * 58 ^ rest.length := Nat.le_mul_of_pos_left _ first
    _ ≤ value d rest := le_value d rest
    _ = value 0 (d :: rest) := by simp [value]

theorem value_ne_zero {ds : List Nat} (leading : Leading ds) (some : ds ≠ []) : value 0 ds ≠ 0 := by
  obtain ⟨d, rest, rfl⟩ := List.exists_cons_of_ne_nil some
  have least := pow_le_value leading
  have power : 0 < 58 ^ rest.length := Nat.pow_pos (by decide)
  omega

/-- A number has at least half as many bytes as digits. -/
theorem length_le_of_leading {ds : List Nat} (leading : Leading ds) :
    ds.length ≤ 2 * width (value 0 ds) := by
  cases ds with
  | nil => exact Nat.zero_le _
  | cons d rest =>
      have below : 58 ^ rest.length < 58 ^ (2 * width (value 0 (d :: rest))) := by
        calc 58 ^ rest.length
            ≤ value 0 (d :: rest) := pow_le_value leading
          _ < 256 ^ width (value 0 (d :: rest)) := lt_pow_width _
          _ ≤ (58 ^ 2) ^ width (value 0 (d :: rest)) := Nat.pow_le_pow_left (by decide) _
          _ = 58 ^ (2 * width (value 0 (d :: rest))) := (Nat.pow_mul ..).symm
      exact (Nat.pow_lt_pow_iff_right (by decide)).1 below

/-- The digits of a number are written as they were read. -/
theorem numberDigits_value {ds : List Nat} {fuel : Nat} (digits : ∀ d ∈ ds, d < 58)
    (leading : Leading ds) (enough : ds.length ≤ fuel) (acc : List Char) :
    numberDigits fuel (value 0 ds) acc = ds.map digitChar ++ acc := by
  induction fuel generalizing ds acc with
  | zero =>
      rw [List.eq_nil_of_length_eq_zero (Nat.le_zero.1 enough)]
      rfl
  | succ fuel ih =>
      rcases List.eq_nil_or_concat ds with rfl | ⟨higher, d, rfl⟩
      · rfl
      · rw [List.concat_eq_append] at *
        have last : d < 58 := digits d (by simp)
        have quotient : (58 * value 0 higher + d) / 58 = value 0 higher := by omega
        have remainder : (58 * value 0 higher + d) % 58 = d := by omega
        have nonzero := value_ne_zero leading (by simp)
        have shorter : higher.length ≤ fuel := by simpa using enough
        have head : Leading higher := by
          cases higher with
          | nil => simp [Leading]
          | cons => simpa [Leading] using leading
        rw [numberDigits, if_neg nonzero, value_snoc, quotient, remainder,
          ih (fun d mem => digits d (List.mem_append_left _ mem)) head shorter]
        simp

/-- Zeros in front, and digits that do not begin with one. -/
theorem exists_zeros (ds : List Nat) :
    ∃ count rest, ds = List.replicate count 0 ++ rest ∧ Leading rest := by
  induction ds with
  | nil => exact ⟨0, [], rfl, by simp [Leading]⟩
  | cons d ds ih =>
      cases d with
      | zero =>
          obtain ⟨count, rest, rfl, leading⟩ := ih
          exact ⟨count + 1, rest, rfl, leading⟩
      | succ d => exact ⟨0, (d + 1) :: ds, rfl, by simp [Leading]⟩

theorem takeWhile_replicate_append {α : Type} {p : α → Bool} {a : α} {rest : List α} (count : Nat)
    (holds : p a) (stops : ∀ b ∈ rest.head?, p b = false) :
    (List.replicate count a ++ rest).takeWhile p = List.replicate count a := by
  induction count with
  | zero =>
      cases rest with
      | nil => rfl
      | cons b => exact List.takeWhile_cons_of_neg (by simpa using stops b rfl)
  | succ count ih =>
      rw [List.replicate_succ, List.cons_append, List.takeWhile_cons_of_pos holds, ih]

/-- The digits for zeros in front are the ones in front. -/
theorem takeWhile_ones (count : Nat) {ds : List Nat} (digits : ∀ d ∈ ds, d < 58)
    (leading : Leading ds) :
    ((List.replicate count 0 ++ ds).map digitByte).takeWhile (· == 0x31) =
      List.replicate count 0x31 := by
  rw [List.map_append, List.map_replicate]
  apply takeWhile_replicate_append count rfl
  cases ds with
  | nil => simp
  | cons d others =>
      have other : d ≠ 0 := fun zero => leading (by rw [zero]; rfl)
      simpa [digitByte_eq_one_iff (digits d (List.mem_cons_self ..))] using other

/-- What is read is zero bytes, one for each leading zero digit, and the number of the other digits. -/
theorem digits_of_decode {s : String} {bs : Bytes} (read : decode s = .ok bs) :
    ∃ count ds, (∀ d ∈ ds, d < 58) ∧ Leading ds ∧
      s = String.ofList ((List.replicate count 0 ++ ds).map digitChar) ∧
      bs = List.replicate count 0 ++ minimal (value 0 ds) := by
  change (number 0 0 (ofString s)).bind _ = _ at read
  cases numbered : number 0 0 (ofString s) with
  | error e =>
      rw [numbered] at read
      cases read
  | ok n =>
      rw [numbered] at read
      obtain ⟨ds, digits, spelled, rfl⟩ := digits_of_number numbered
      obtain ⟨count, rest, rfl, leading⟩ := exists_zeros ds
      have small (d : Nat) (mem : d ∈ rest) : d < 58 := digits d (List.mem_append_right _ mem)
      have ascii : ∀ c ∈ (List.replicate count 0 ++ rest).map digitChar, c.toNat < 128 :=
        ascii_of_digits digits
      have text : s = String.ofList ((List.replicate count 0 ++ rest).map digitChar) := by
        apply ofString_injective
        rw [spelled, ofString_ascii ascii, List.map_map]
        rfl
      have ones : (ofString s).takeWhile (· == 0x31) = List.replicate count 0x31 := by
        rw [spelled, takeWhile_ones count small leading]
      have written := Except.ok.inj read
      rw [ones, List.length_replicate, value_zeros] at written
      exact ⟨count, rest, small, leading, text, written.symm⟩

/-- Every number has digits that do not begin with a zero. -/
theorem exists_digits (n : Nat) : ∃ ds, (∀ d ∈ ds, d < 58) ∧ Leading ds ∧ value 0 ds = n := by
  induction n using Nat.strongRecOn with
  | ind n ih =>
      by_cases zero : n = 0
      · exact ⟨[], by simp, by simp [Leading], zero.symm⟩
      · obtain ⟨ds, digits, leading, higher⟩ := ih (n / 58) (by omega)
        refine ⟨ds ++ [n % 58], ?_, ?_, ?_⟩
        · intro d mem
          rcases List.mem_append.1 mem with mem | last
          · exact digits d mem
          · rw [List.mem_singleton.1 last]
            exact Nat.mod_lt n (by decide)
        · cases ds with
          | nil =>
              have small : n / 58 = 0 := higher.symm
              simp only [Leading, List.nil_append, List.head?_cons, ne_eq, Option.some.injEq]
              omega
          | cons => simpa [Leading] using leading
        · rw [value_snoc, higher]
          omega

/-- Digits are read as their number. -/
theorem number_digits {index acc : Nat} {ds : List Nat} (digits : ∀ d ∈ ds, d < 58) :
    number index acc (ds.map digitByte) = .ok (value acc ds) := by
  have each : ∀ d < 58, ¬ 127 < (digitByte d).toNat ∧
      digit? (Char.ofNat (digitByte d).toNat) = some d := by decide
  induction ds generalizing index acc with
  | nil => rfl
  | cons d rest ih =>
      obtain ⟨small, others⟩ := List.forall_mem_cons.1 digits
      obtain ⟨ascii, read⟩ := each d small
      rw [List.map_cons, number, if_neg ascii, read]
      exact ih others

/-- Bytes are zeros and the shortest bytes of a number. -/
theorem exists_zeroBytes (bs : Bytes) :
    ∃ count n, bs = List.replicate count 0 ++ minimal n := by
  induction bs with
  | nil => exact ⟨0, 0, rfl⟩
  | cons b rest ih =>
      by_cases zero : b = 0
      · obtain ⟨count, n, rfl⟩ := ih
        exact ⟨count + 1, n, by rw [zero]; rfl⟩
      · exact ⟨0, toNat (b :: rest), (minimal_toNat (by simpa using zero)).symm⟩

/-- What is written for zeros and a number is the digits of both. -/
theorem encode_zeros (count : Nat) {ds : List Nat} (digits : ∀ d ∈ ds, d < 58)
    (leading : Leading ds) :
    encode (List.replicate count 0 ++ minimal (value 0 ds)) =
      String.ofList ((List.replicate count 0 ++ ds).map digitChar) := by
  have zeros : (List.replicate count 0 ++ minimal (value 0 ds)).takeWhile (· == 0) =
      List.replicate count 0 := by
    apply takeWhile_replicate_append count rfl
    cases spelled : minimal (value 0 ds) with
    | nil => simp
    | cons b rest =>
        have other : b ≠ 0 := fun zero => minimal_ne_zero_cons _ rest (by rw [spelled, zero])
        simpa using other
  have enough : ds.length ≤ 2 * (List.replicate count (0 : UInt8) ++ minimal (value 0 ds)).length := by
    have long := length_le_of_leading leading
    rw [List.length_append, length_minimal]
    omega
  have spelled : numberDigits
      (2 * (List.replicate count (0 : UInt8) ++ minimal (value 0 ds)).length) (value 0 ds) [] =
      ds.map digitChar := by
    rw [numberDigits_value digits leading enough, List.append_nil]
  have one : digitChar 0 = '1' := by decide
  rw [encode, zeros, toNat_zeros_append, toNat_minimal, spelled, List.length_replicate,
    List.map_append, List.map_replicate, one]

/-- A text is written from the bytes that it is read as. -/
theorem encode_of_decode {s : String} {bs : Bytes} (read : decode s = .ok bs) : encode bs = s := by
  obtain ⟨count, ds, digits, leading, text, rfl⟩ := digits_of_decode read
  rw [text, encode_zeros count digits leading]

/-- Bytes are read back from what is written for them. -/
theorem decode_encode (bs : Bytes) : decode (encode bs) = .ok bs := by
  obtain ⟨count, n, rfl⟩ := exists_zeroBytes bs
  obtain ⟨ds, digits, leading, rfl⟩ := exists_digits n
  have all := digits_zeros_append count digits
  have ascii : ∀ c ∈ (List.replicate count 0 ++ ds).map digitChar, c.toNat < 128 :=
    ascii_of_digits all
  have written : ofString (encode (List.replicate count 0 ++ minimal (value 0 ds))) =
      (List.replicate count 0 ++ ds).map digitByte := by
    rw [encode_zeros count digits leading, ofString_ascii ascii, List.map_map]
    rfl
  change (number 0 0 (ofString _)).bind _ = _
  rw [written, number_digits all, value_zeros]
  change Except.ok (List.replicate (List.length (List.takeWhile _ _)) 0 ++ _) = _
  rw [takeWhile_ones count digits leading, List.length_replicate]

theorem decode_injective {s s' : String} {bs : Bytes} (read : decode s = .ok bs)
    (read' : decode s' = .ok bs) : s = s' := by
  rw [← encode_of_decode read, encode_of_decode read']

theorem decode_eq_ok_iff {s : String} {bs : Bytes} : decode s = .ok bs ↔ encode bs = s := by
  constructor
  · exact encode_of_decode
  · rintro rfl
    exact decode_encode bs

theorem decodeExact?_eq_some_iff {count : Nat} {s : String} {bs : Bytes} :
    decodeExact? count s = some bs ↔ decode s = .ok bs ∧ bs.length = count := by
  unfold decodeExact?
  cases decode s with
  | error e => simp
  | ok read =>
      simp only [Option.ite_none_right_eq_some, Option.some.injEq, Except.ok.injEq]
      constructor
      · rintro ⟨sized, rfl⟩
        exact ⟨rfl, sized⟩
      · rintro ⟨rfl, sized⟩
        exact ⟨sized, rfl⟩

theorem value_lt {acc : Nat} {ds : List Nat} (digits : ∀ d ∈ ds, d < 58) :
    value acc ds < (acc + 1) * 58 ^ ds.length := by
  induction ds generalizing acc with
  | nil => simp [value]
  | cons d rest ih =>
      obtain ⟨small, others⟩ := List.forall_mem_cons.1 digits
      calc value acc (d :: rest)
          < (58 * acc + d + 1) * 58 ^ rest.length := ih others
        _ ≤ ((acc + 1) * 58) * 58 ^ rest.length := Nat.mul_le_mul_right _ (by omega)
        _ = (acc + 1) * 58 ^ (d :: rest).length := by
          rw [List.length_cons, Nat.pow_succ', Nat.mul_assoc]

/-- A number has at least as many digits as bytes. -/
theorem width_value_le {ds : List Nat} (digits : ∀ d ∈ ds, d < 58) :
    width (value 0 ds) ≤ ds.length := by
  apply width_le
  calc value 0 ds
      < (0 + 1) * 58 ^ ds.length := value_lt digits
    _ = 58 ^ ds.length := Nat.one_mul _
    _ ≤ 256 ^ ds.length := Nat.pow_le_pow_left (by decide) _

/-- Up to 32 bytes, a number has at most 12 digits more than bytes. -/
theorem length_le_width_add {ds : List Nat} (leading : Leading ds)
    (narrow : width (value 0 ds) ≤ 32) : ds.length ≤ width (value 0 ds) + 12 := by
  cases ds with
  | nil => exact Nat.zero_le _
  | cons d rest =>
      have wide : ∀ w ≤ 32, 256 ^ w ≤ 58 ^ (w + 12) := by decide
      have below : 58 ^ rest.length < 58 ^ (width (value 0 (d :: rest)) + 12) := by
        calc 58 ^ rest.length
            ≤ value 0 (d :: rest) := pow_le_value leading
          _ < 256 ^ width (value 0 (d :: rest)) := lt_pow_width _
          _ ≤ 58 ^ (width (value 0 (d :: rest)) + 12) := wide _ narrow
      exact (Nat.pow_lt_pow_iff_right (by decide)).1 below

/-- The spelling of at most 32 bytes has as many characters, or up to 12 more. -/
theorem size_encode {bs : Bytes} (short : bs.length ≤ 32) :
    bs.length ≤ (encode bs).utf8ByteSize ∧ (encode bs).utf8ByteSize ≤ bs.length + 12 := by
  obtain ⟨count, n, rfl⟩ := exists_zeroBytes bs
  obtain ⟨ds, digits, leading, rfl⟩ := exists_digits n
  have least := width_value_le digits
  rw [List.length_append, List.length_replicate, length_minimal] at short ⊢
  have most := length_le_width_add leading (by omega)
  have ascii := ascii_of_digits (digits_zeros_append count digits)
  rw [encode_zeros count digits leading, ← length_ofString, ofString_ascii ascii, List.length_map,
    List.length_map, List.length_append, List.length_replicate]
  omega

end TokenFaucet.Bytes.Base58
