import TokenFaucet.Bytes.Base64

set_option autoImplicit false

attribute [local instance (2000)] instPowNat

namespace TokenFaucet.Bytes.Base64

theorem digit?_digitChar {n : Nat} (small : n < 64) : digit? (digitChar n) = some n := by
  have all : ∀ n < 64, digit? (digitChar n) = some n := by decide
  exact all n small

theorem digitChar_ne_pad {n : Nat} (small : n < 64) : digitChar n ≠ '=' := by
  intro pad
  have read := digit?_digitChar small
  rw [pad] at read
  cases read

/-- A number below 64 to the fourth from its four digits. -/
theorem digits_sum {n : Nat} (small : n < 64 * 64 * 64 * 64) :
    ((n / 64 / 64 / 64 % 64 * 64 + n / 64 / 64 % 64) * 64 + n / 64 % 64) * 64 + n % 64 = n := by
  omega

theorem bigEndian_three (a b c : UInt8) :
    bigEndian 3 ((a.toNat * 256 + b.toNat) * 256 + c.toNat) = [a, b, c] := by
  have ha := a.toNat_lt
  have hb := b.toNat_lt
  have hc := c.toNat_lt
  have first : (((a.toNat * 256 + b.toNat) * 256 + c.toNat) / 256 / 256) % 256 = a.toNat := by omega
  have second : ((a.toNat * 256 + b.toNat) * 256 + c.toNat) / 256 % 256 = b.toNat := by omega
  have third : ((a.toNat * 256 + b.toNat) * 256 + c.toNat) % 256 = c.toNat := by omega
  simp only [bigEndian, littleEndian, first, second, third, UInt8.ofNat_toNat]
  rfl

theorem bytes?_full {a b c d : Char} {rest : List Char} {w x y z : Nat} {bs : Bytes}
    (ha : digit? a = some w) (hb : digit? b = some x) (hc : digit? c = some y)
    (hd : digit? d = some z) (read : bytes? rest = some bs) :
    bytes? (a :: b :: c :: d :: rest) =
      some (bigEndian 3 (((w * 64 + x) * 64 + y) * 64 + z) ++ bs) := by
  have notPad : d ≠ '=' := by
    rintro rfl
    cases hd
  rw [bytes?]
  · simp [ha, hb, hc, hd, read]
  · rintro rfl rfl rfl
    exact notPad rfl
  · rintro rfl rfl
    exact notPad rfl

theorem groupBytes?_of_mod {n missing : Nat} (filled : n % 256 ^ missing = 0) :
    groupBytes? n missing = some ((bigEndian 3 n).take (3 - missing)) :=
  if_pos filled

theorem bytes?_one (a : UInt8) : bytes? (chars [a]) = some [a] := by
  have ha := a.toNat_lt
  have value : (a.toNat * 256 * 256 / 64 / 64 / 64 % 64 * 64 + a.toNat * 256 * 256 / 64 / 64 % 64) *
      64 * 64 = (a.toNat * 256 + (0 : UInt8).toNat) * 256 + (0 : UInt8).toNat := by
    simp only [UInt8.toNat_ofNat]
    omega
  have filled : ((a.toNat * 256 + (0 : UInt8).toNat) * 256 + (0 : UInt8).toNat) % 256 ^ 2 = 0 := by
    rw [UInt8.toNat_zero, Nat.add_zero, Nat.add_zero, Nat.mul_assoc]
    exact Nat.mul_mod_left a.toNat (256 * 256)
  have digit (n : Nat) : digit? (digitChar (n % 64)) = some (n % 64) :=
    digit?_digitChar (Nat.mod_lt _ (by decide))
  change bytes? [_, _, '=', '='] = _
  rw [bytes?]
  simp only [digit, Option.bind_eq_bind, Option.bind_some]
  rw [value, groupBytes?_of_mod filled, bigEndian_three]
  rfl

theorem bytes?_two (a b : UInt8) : bytes? (chars [a, b]) = some [a, b] := by
  have ha := a.toNat_lt
  have hb := b.toNat_lt
  have value : ((((a.toNat * 256 + b.toNat) * 256) / 64 / 64 / 64 % 64 * 64 +
      ((a.toNat * 256 + b.toNat) * 256) / 64 / 64 % 64) * 64 +
        ((a.toNat * 256 + b.toNat) * 256) / 64 % 64) * 64 =
      (a.toNat * 256 + b.toNat) * 256 + (0 : UInt8).toNat := by
    have small : (a.toNat * 256 + b.toNat) * 256 < 64 * 64 * 64 * 64 := by omega
    have last : (a.toNat * 256 + b.toNat) * 256 % 64 = 0 := by omega
    have sum := digits_sum small
    rw [last, Nat.add_zero] at sum
    rw [sum, UInt8.toNat_zero, Nat.add_zero]
  have filled : ((a.toNat * 256 + b.toNat) * 256 + (0 : UInt8).toNat) % 256 ^ 1 = 0 := by
    simp only [UInt8.toNat_ofNat]
    omega
  have digit (n : Nat) : digit? (digitChar (n % 64)) = some (n % 64) :=
    digit?_digitChar (Nat.mod_lt _ (by decide))
  have notPad (n : Nat) : digitChar (n % 64) ≠ '=' := digitChar_ne_pad (Nat.mod_lt _ (by decide))
  change bytes? [_, _, _, '='] = _
  rw [bytes?]
  · simp only [digit, Option.bind_eq_bind, Option.bind_some]
    rw [value, groupBytes?_of_mod filled, bigEndian_three]
    rfl
  · exact notPad _

theorem bytes?_chars (bs : Bytes) : bytes? (chars bs) = some bs := by
  induction bs using chars.induct with
  | case1 => rfl
  | case2 a => exact bytes?_one a
  | case3 a b => exact bytes?_two a b
  | case4 a b c rest ih =>
      have ha := a.toNat_lt
      have hb := b.toNat_lt
      have hc := c.toNat_lt
      have small : (a.toNat * 256 + b.toNat) * 256 + c.toNat < 64 * 64 * 64 * 64 := by omega
      have digit (n : Nat) : digit? (digitChar (n % 64)) = some (n % 64) :=
        digit?_digitChar (Nat.mod_lt _ (by decide))
      change bytes? (_ :: _ :: _ :: _ :: chars rest) = _
      rw [bytes?_full (digit _) (digit _) (digit _) (digit _) ih, digits_sum small, bigEndian_three]
      rfl

@[simp] theorem decode?_encode (bs : Bytes) : decode? (encode bs) = some bs := by
  rw [decode?, encode, String.toList_ofList, bytes?_chars]

end TokenFaucet.Bytes.Base64
