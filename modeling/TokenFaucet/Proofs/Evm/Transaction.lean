import TokenFaucet.Evm.Transaction
import TokenFaucet.Proofs.Evm.Rlp

set_option autoImplicit false

attribute [local instance (2000)] instPowNat

namespace TokenFaucet

/-- The bits of a number in a transaction. -/
def Evm.wordBits : Nat := 256

namespace Curve.Secp256k1

/-- The lower of two values that sign equally well. -/
def lower (r s : Nat) (odd : Bool) : Signature :=
  if n / 2 < s then ⟨r, n - s, !odd⟩ else ⟨r, s, odd⟩

theorem lower_lt {r s : Nat} (odd : Bool) (hr : r < 2 ^ Evm.wordBits) (hs : s < 2 ^ Evm.wordBits) :
    (lower r s odd).r < 2 ^ Evm.wordBits ∧ (lower r s odd).s < 2 ^ Evm.wordBits := by
  have order : n < 2 ^ Evm.wordBits := by decide
  unfold lower
  split
  · exact ⟨hr, Nat.lt_of_le_of_lt (Nat.sub_le ..) order⟩
  · exact ⟨hr, hs⟩

theorem mod_order_lt (k : Nat) : k % n < 2 ^ Evm.wordBits :=
  Nat.lt_trans (Nat.mod_lt _ (by decide)) (show n < 2 ^ Evm.wordBits by decide)

theorem PrivateKey.sign_eq (key : PrivateKey) (digest : Bytes) :
    ∃ r s odd, key.sign digest = lower (r % n) (s % n) odd :=
  ⟨_, _, _, rfl⟩

theorem PrivateKey.sign_lt (key : PrivateKey) (digest : Bytes) :
    (key.sign digest).r < 2 ^ Evm.wordBits ∧ (key.sign digest).s < 2 ^ Evm.wordBits := by
  obtain ⟨r, s, odd, signed⟩ := key.sign_eq digest
  rw [signed]
  exact lower_lt odd (mod_order_lt r) (mod_order_lt s)

end Curve.Secp256k1

namespace Evm

namespace Transaction

/-- The numbers of a transaction are words and its input is short. -/
structure Sized (t : Transaction) : Prop where
  nonce : t.nonce < 2 ^ Evm.wordBits
  gasPrice : t.gasPrice < 2 ^ Evm.wordBits
  gasLimit : t.gasLimit < 2 ^ Evm.wordBits
  input : t.input.length < UInt32.size

theorem length_ofNat_le {n : Nat} (small : n < 2 ^ Evm.wordBits) :
    (Rlp.ofNat n).encode.length ≤ 41 := by
  have wide : Bytes.width n ≤ 32 := Bytes.width_le (Nat.lt_of_lt_of_le small (by decide))
  have length := Bytes.length_minimal n
  have limit : 256 ^ Rlp.lengthWidth = 2 ^ 64 := rfl
  have short : (Bytes.minimal n).length < 256 ^ Rlp.lengthWidth := by omega
  have bound := Rlp.encodeBytes_length_le short
  rw [Rlp.ofNat, Rlp.encode]
  omega

theorem fits_ofNat {n : Nat} (small : n < 2 ^ Evm.wordBits) : Rlp.Fits (.ofNat n) := by
  have wide : Bytes.width n ≤ 32 := Bytes.width_le (Nat.lt_of_lt_of_le small (by decide))
  have limit : 256 ^ Rlp.lengthWidth = 2 ^ 64 := rfl
  rw [Rlp.ofNat, Rlp.Fits, Bytes.length_minimal]
  omega

/-- A signed transaction is read as the list of its fields and of what the signature adds. -/
theorem decode?_signed {t : Transaction} (sized : t.Sized) (key : Curve.Secp256k1.PrivateKey) :
    Rlp.decode? (t.signed key) =
      some (.list (t.fields ++ [.ofNat (t.parityField (key.sign t.digest)),
        .ofNat (key.sign t.digest).r, .ofNat (key.sign t.digest).s])) := by
  obtain ⟨r, s⟩ := key.sign_lt t.digest
  have limit : 256 ^ Rlp.lengthWidth = 2 ^ 64 := rfl
  have few : UInt32.size = 2 ^ 32 := rfl
  have word : 2 ^ wordBits = 2 ^ 256 := rfl
  have id := t.chainId.toNat_lt
  have parity : t.parityField (key.sign t.digest) < 2 ^ Evm.wordBits := by
    unfold parityField
    split <;> omega
  have value : t.value.toNat < 2 ^ Evm.wordBits := t.value.toNat_lt
  have target : (Rlp.bytes t.target.bytes).encode.length ≤ 29 := by
    have length := t.target.length_bytes
    have bound :=
      Rlp.encodeBytes_length_le (show t.target.bytes.length < 256 ^ Rlp.lengthWidth by omega)
    rw [Rlp.encode]
    omega
  have input : (Rlp.bytes t.input).encode.length ≤ t.input.length + 9 := by
    rw [Rlp.encode]
    exact Rlp.encodeBytes_length_le (Nat.lt_trans sized.input (by decide))
  have n₁ := length_ofNat_le sized.nonce
  have n₂ := length_ofNat_le sized.gasPrice
  have n₃ := length_ofNat_le sized.gasLimit
  have n₄ := length_ofNat_le value
  have n₅ := length_ofNat_le parity
  have n₆ := length_ofNat_le r
  have n₇ := length_ofNat_le s
  have small := sized.input
  have account := t.target.length_bytes
  apply Rlp.decode?_encode
  refine ⟨?_, fits_ofNat sized.nonce, fits_ofNat sized.gasPrice, fits_ofNat sized.gasLimit, ?_,
    fits_ofNat value, ?_, fits_ofNat parity, fits_ofNat r, fits_ofNat s, trivial⟩
  · simp only [fields, List.cons_append, List.nil_append, Rlp.encodeAll, List.length_append,
      List.length_nil]
    omega
  · rw [Rlp.Fits]
    omega
  · rw [Rlp.Fits]
    omega

end Transaction

/-- The nonce of a signed transaction in the form of nine byte strings. -/
def nonceOf? (raw : Bytes) : Option Nat :=
  match Rlp.decode? raw with
  | some (.list [.bytes nonce, .bytes _, .bytes _, .bytes _, .bytes _, .bytes _, .bytes _, .bytes _,
      .bytes _]) => some nonce.toNat
  | _ => none

theorem nonceOf?_signed {t : Transaction} (sized : t.Sized) (key : Curve.Secp256k1.PrivateKey) :
    nonceOf? (t.signed key) = some t.nonce := by
  rw [nonceOf?, Transaction.decode?_signed sized key]
  change some (Bytes.minimal t.nonce).toNat = _
  rw [Bytes.toNat_minimal]

end Evm

end TokenFaucet
