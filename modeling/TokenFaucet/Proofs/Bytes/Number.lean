import TokenFaucet.Bytes.Basic

set_option autoImplicit false

attribute [local instance (2000)] instPowNat

namespace TokenFaucet.Bytes

theorem toNat_reverse (bs : Bytes) : toNat bs.reverse = toNatLE bs := by
  rw [toNat, List.foldl_reverse, toNatLE]
  congr 1
  funext b n
  exact Nat.add_comm ..

theorem toNat_bigEndian (count n : Nat) : toNat (bigEndian count n) = n % 256 ^ count := by
  rw [bigEndian, toNat_reverse, toNatLE_littleEndian]

theorem pow_256 (k : Nat) : 256 ^ k = 2 ^ (8 * k) := by
  rw [Nat.pow_mul]

theorem lt_pow_width (n : Nat) : n < 256 ^ width n := by
  unfold width
  split
  · next zero =>
      subst zero
      decide
  · rw [pow_256]
    apply Nat.lt_of_lt_of_le (Nat.lt_log2_self)
    apply Nat.pow_le_pow_right (by decide)
    omega

theorem width_le {n k : Nat} (small : n < 256 ^ k) : width n ≤ k := by
  unfold width
  split
  · exact Nat.zero_le _
  · next nonzero =>
      rw [pow_256] at small
      have bits := (Nat.log2_lt nonzero).2 small
      omega

theorem width_pos {n : Nat} (nonzero : n ≠ 0) : 0 < width n := by
  rw [width, if_neg nonzero]
  exact Nat.succ_pos _

theorem toNatLE_lt_pow (bs : Bytes) : toNatLE bs < 256 ^ bs.length := by
  induction bs with
  | nil => decide
  | cons b rest ih =>
      have small := b.toNat_lt
      have value : toNatLE (b :: rest) = b.toNat + 256 * toNatLE rest := rfl
      rw [value, List.length_cons, Nat.pow_succ]
      omega

theorem toNat_lt_pow (bs : Bytes) : toNat bs < 256 ^ bs.length := by
  have below := toNatLE_lt_pow bs.reverse
  rwa [← toNat_reverse, List.reverse_reverse, List.length_reverse] at below

theorem length_minimal (n : Nat) : (minimal n).length = width n :=
  length_bigEndian ..

theorem toNat_minimal (n : Nat) : toNat (minimal n) = n := by
  rw [minimal, toNat_bigEndian, Nat.mod_eq_of_lt (lt_pow_width n)]

/-- Zero bytes in front do not count. -/
theorem toNat_zeros_append (count : Nat) (bs : Bytes) :
    toNat (List.replicate count 0 ++ bs) = toNat bs := by
  induction count with
  | zero => rfl
  | succ count ih => exact ih

/-- The highest byte of a number is not zero. -/
theorem minimal_ne_zero_cons (n : Nat) (rest : Bytes) : minimal n ≠ 0 :: rest := by
  intro leading
  have value := toNat_minimal n
  have length := length_minimal n
  rw [leading] at value length
  have fewer : n < 256 ^ rest.length := by
    rw [← value]
    exact toNat_lt_pow rest
  have short := width_le fewer
  rw [List.length_cons] at length
  omega

theorem littleEndian_toNatLE (bs : Bytes) : littleEndian bs.length (toNatLE bs) = bs := by
  induction bs with
  | nil => rfl
  | cons b rest ih =>
      have byte := b.toNat_lt
      have value : toNatLE (b :: rest) = b.toNat + 256 * toNatLE rest := rfl
      have low : (b.toNat + 256 * toNatLE rest) % 256 = b.toNat := by omega
      have high : (b.toNat + 256 * toNatLE rest) / 256 = toNatLE rest := by omega
      rw [value, List.length_cons, littleEndian, low, high, ih, UInt8.ofNat_toNat]

/-- What does not fit is left out. -/
theorem littleEndian_mod (count n : Nat) :
    littleEndian count (n % 256 ^ count) = littleEndian count n := by
  have same := littleEndian_toNatLE (littleEndian count n)
  rwa [length_littleEndian, toNatLE_littleEndian] at same

theorem bigEndian_toNat (bs : Bytes) : bigEndian bs.length (toNat bs) = bs := by
  have reversed := littleEndian_toNatLE bs.reverse
  rw [List.length_reverse, ← toNat_reverse, List.reverse_reverse] at reversed
  rw [bigEndian, reversed, List.reverse_reverse]

theorem eq_bigEndian_iff {bs : Bytes} {count n : Nat} :
    bs = bigEndian count n ∧ n < 256 ^ count ↔ bs.length = count ∧ toNat bs = n := by
  constructor
  · rintro ⟨rfl, small⟩
    exact ⟨length_bigEndian .., by rw [toNat_bigEndian, Nat.mod_eq_of_lt small]⟩
  · rintro ⟨rfl, rfl⟩
    exact ⟨(bigEndian_toNat bs).symm, toNat_lt_pow bs⟩

/-- The last byte of a number is the number but for multiples of 256. -/
theorem ofNat_toNat_snoc (front : Bytes) (b : UInt8) : UInt8.ofNat (toNat (front ++ [b])) = b := by
  have value : toNat (front ++ [b]) = 256 * toNat front + b.toNat := by
    rw [toNat, List.foldl_append]
    rfl
  have byte := b.toNat_lt
  apply UInt8.toNat_inj.1
  rw [value, UInt8.toNat_ofNat']
  omega

theorem foldl_toNat (acc : Nat) (bs : Bytes) :
    bs.foldl (fun n b => 256 * n + b.toNat) acc = acc * 256 ^ bs.length + toNat bs := by
  induction bs generalizing acc with
  | nil => simp [toNat]
  | cons b rest ih =>
      have head : toNat (b :: rest) = b.toNat * 256 ^ rest.length + toNat rest := by
        rw [← ih, toNat, List.foldl_cons, Nat.mul_zero, Nat.zero_add]
      rw [List.foldl_cons, ih, head, List.length_cons, Nat.pow_succ', Nat.add_mul, Nat.add_assoc,
        Nat.mul_left_comm, Nat.mul_assoc]

theorem toNat_cons (b : UInt8) (rest : Bytes) :
    toNat (b :: rest) = b.toNat * 256 ^ rest.length + toNat rest := by
  rw [← foldl_toNat, toNat, List.foldl_cons, Nat.mul_zero, Nat.zero_add]

/-- Bytes without a zero in front are the shortest ones of their number. -/
theorem minimal_toNat {bs : Bytes} (tight : bs.head? ≠ some 0) : minimal (toNat bs) = bs := by
  have width_eq : width (toNat bs) = bs.length := by
    apply Nat.le_antisymm (width_le (toNat_lt_pow bs))
    cases bs with
    | nil => exact Nat.zero_le _
    | cons b rest =>
        have nonzero : b.toNat ≠ 0 := by
          intro zero
          exact tight (congrArg some (UInt8.toNat_inj.1 zero))
        have least : 256 ^ rest.length < 256 ^ width (toNat (b :: rest)) := by
          calc 256 ^ rest.length
              ≤ b.toNat * 256 ^ rest.length := Nat.le_mul_of_pos_left _ (Nat.pos_of_ne_zero nonzero)
            _ ≤ toNat (b :: rest) := by rw [toNat_cons]; exact Nat.le_add_right ..
            _ < 256 ^ width (toNat (b :: rest)) := lt_pow_width _
        exact (Nat.pow_lt_pow_iff_right (by decide)).1 least
  rw [minimal, width_eq, bigEndian_toNat]

end TokenFaucet.Bytes
