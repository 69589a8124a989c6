import TokenFaucet.Proofs.Bytes.Reader
import TokenFaucet.Proofs.Evm.Transaction

set_option autoImplicit false

attribute [local instance (2000)] instPowNat

namespace TokenFaucet.Evm

namespace Wire

open Bytes (Reader)
open Bytes.Reader (refuse require)

/-- How many bytes the shortest form of an item has. -/
def tightLength (isList : Bool) (payload : Bytes) : Nat :=
  if !isList && payload.length == 1 && payload.all (·.toNat < 0x80) then 1
  else if payload.length < 56 then 1 + payload.length
  else 1 + Bytes.width payload.length + payload.length

/-- An item in its shortest form: whether it is a list, and its payload. -/
def item : Reader (Bool × Bytes) := fun bs =>
  match Rlp.payload? bs with
  | none => none
  | some (isList, payload, rest) =>
    if bs.length = tightLength isList payload + rest.length then some ((isList, payload), rest)
    else none

def string : Reader Bytes := do
  let (isList, payload) ← item
  require (isList = false)
  return payload

/-- A number without leading zeros, the highest byte first. -/
def integer : Reader Nat := do
  let bs ← string
  require (bs.head? ≠ some 0)
  return bs.toNat

/-- The nine parts of a transaction. -/
structure Transaction where
  nonce : Nat
  gasPrice : Nat
  gasLimit : Nat
  target : Bytes
  value : Nat
  input : Bytes
  v : Nat
  r : Nat
  s : Nat

def parts : Reader Transaction := do
  let nonce ← integer
  let gasPrice ← integer
  let gasLimit ← integer
  let target ← string
  let value ← integer
  let input ← string
  let v ← integer
  let r ← integer
  let s ← integer
  return ⟨nonce, gasPrice, gasLimit, target, value, input, v, r, s⟩

/-- A list of nine parts and nothing else. -/
def transaction : Reader Transaction := do
  let (isList, payload) ← item
  require (isList = true)
  match parts.whole? payload with
  | some t => return t
  | none => refuse

theorem length_header_payload (offset : Nat) (payload : Bytes) :
    (Rlp.header offset payload.length ++ payload).length =
      if payload.length < 56 then 1 + payload.length
      else 1 + Bytes.width payload.length + payload.length := by
  unfold Rlp.header
  split
  · rw [List.singleton_append, List.length_cons]
    omega
  · rw [List.length_append, List.length_cons, Bytes.length_minimal]
    omega

theorem length_encodeBytes (bs : Bytes) : (Rlp.encodeBytes bs).length = tightLength false bs := by
  unfold Rlp.encodeBytes
  split
  · next b =>
      split
      · next low =>
          have byte : b.toNat < 0x80 := UInt8.lt_iff_toNat_lt.1 low
          simp [tightLength, byte]
      · next high =>
          have byte : ¬ b.toNat < 0x80 := fun low => high (UInt8.lt_iff_toNat_lt.2 low)
          simp [tightLength, byte, Rlp.header]
  · next several =>
      have other : ¬ (bs.length = 1 ∧ bs.all (·.toNat < 0x80)) := by
        rintro ⟨one, -⟩
        obtain ⟨b, rfl⟩ := List.length_eq_one_iff.1 one
        exact several b rfl
      rw [length_header_payload, tightLength]
      simp only [Bool.not_false, Bool.true_and, Bool.and_eq_true, beq_iff_eq]
      rw [if_neg other]

theorem reads_string {bs : Bytes} (short : bs.length < 256 ^ Rlp.lengthWidth) :
    string.Reads (Rlp.encodeBytes bs) bs := by
  have first : item.Reads (Rlp.encodeBytes bs) (false, bs) := by
    intro rest
    rw [item, Rlp.payload?_encodeBytes bs rest short]
    dsimp only
    rw [if_pos (by rw [List.length_append, length_encodeBytes])]
  exact first.checked (p := fun x => x.1 = false) rfl Prod.snd

theorem reads_integer {n : Nat} (small : n < 2 ^ wordBits) : integer.Reads (Rlp.ofNat n).encode n := by
  have wide : Bytes.width n ≤ 32 := Bytes.width_le small
  have limit : 256 ^ Rlp.lengthWidth = 2 ^ 64 := rfl
  have short : (Bytes.minimal n).length < 256 ^ Rlp.lengthWidth := by
    rw [Bytes.length_minimal]
    omega
  have tight : (Bytes.minimal n).head? ≠ some 0 := by
    intro leading
    obtain ⟨rest, spelled⟩ := List.head?_eq_some_iff.1 leading
    exact Bytes.minimal_ne_zero_cons n rest spelled
  have read := (reads_string short).checked (p := fun bs => bs.head? ≠ some 0) tight Bytes.toNat
  rw [Bytes.toNat_minimal] at read
  rwa [Rlp.ofNat, Rlp.encode]

def Transaction.items (t : Transaction) : List Rlp :=
  [.ofNat t.nonce, .ofNat t.gasPrice, .ofNat t.gasLimit, .bytes t.target, .ofNat t.value,
    .bytes t.input, .ofNat t.v, .ofNat t.r, .ofNat t.s]

/-- The numbers of a transaction are words, its target is an account and its input is short. -/
structure Transaction.Sized (t : Transaction) : Prop where
  nonce : t.nonce < 2 ^ wordBits
  gasPrice : t.gasPrice < 2 ^ wordBits
  gasLimit : t.gasLimit < 2 ^ wordBits
  target : t.target.length = 20
  value : t.value < 2 ^ wordBits
  input : t.input.length < UInt32.size
  v : t.v < 2 ^ wordBits
  r : t.r < 2 ^ wordBits
  s : t.s < 2 ^ wordBits

theorem Transaction.Sized.target_short {t : Transaction} (sized : t.Sized) :
    t.target.length < 256 ^ Rlp.lengthWidth := by
  rw [sized.target]
  decide

theorem Transaction.Sized.input_short {t : Transaction} (sized : t.Sized) :
    t.input.length < 256 ^ Rlp.lengthWidth :=
  Nat.lt_trans sized.input (by decide)

theorem reads_parts {t : Transaction} (sized : t.Sized) :
    parts.Reads (Rlp.encodeAll t.items) t := by
  have spelled : Rlp.encodeAll t.items =
      (Rlp.ofNat t.nonce).encode ++ ((Rlp.ofNat t.gasPrice).encode ++
        ((Rlp.ofNat t.gasLimit).encode ++ (Rlp.encodeBytes t.target ++
          ((Rlp.ofNat t.value).encode ++ (Rlp.encodeBytes t.input ++
            ((Rlp.ofNat t.v).encode ++ ((Rlp.ofNat t.r).encode ++
              (Rlp.ofNat t.s).encode))))))) := by
    simp only [Transaction.items, Rlp.encodeAll, Rlp.encode, List.append_nil]
  rw [spelled]
  exact (reads_integer sized.nonce).bind ((reads_integer sized.gasPrice).bind
    ((reads_integer sized.gasLimit).bind ((reads_string sized.target_short).bind
      ((reads_integer sized.value).bind ((reads_string sized.input_short).bind
        ((reads_integer sized.v).bind ((reads_integer sized.r).bind
          ((reads_integer sized.s).last _))))))))

theorem length_items_lt {t : Transaction} (sized : t.Sized) :
    (Rlp.encodeAll t.items).length < 256 ^ Rlp.lengthWidth := by
  have limit : 256 ^ Rlp.lengthWidth = 2 ^ 64 := rfl
  have few : UInt32.size = 2 ^ 32 := rfl
  have target := Rlp.encodeBytes_length_le sized.target_short
  have input := Rlp.encodeBytes_length_le sized.input_short
  have nonce := Evm.Transaction.length_ofNat_le sized.nonce
  have gasPrice := Evm.Transaction.length_ofNat_le sized.gasPrice
  have gasLimit := Evm.Transaction.length_ofNat_le sized.gasLimit
  have value := Evm.Transaction.length_ofNat_le sized.value
  have v := Evm.Transaction.length_ofNat_le sized.v
  have r := Evm.Transaction.length_ofNat_le sized.r
  have s := Evm.Transaction.length_ofNat_le sized.s
  have account := sized.target
  have short := sized.input
  simp only [Transaction.items, Rlp.encodeAll, List.length_append, List.length_nil]
  rw [Rlp.encode, Rlp.encode]
  omega

/-- A transaction is read back from its bytes. -/
theorem reads_transaction {t : Transaction} (sized : t.Sized) :
    transaction.Reads (Rlp.list t.items).encode t := by
  have short := length_items_lt sized
  intro rest
  have listed : item ((Rlp.list t.items).encode ++ rest) =
      some ((true, Rlp.encodeAll t.items), rest) := by
    rw [Rlp.encode, List.append_assoc, item, Rlp.payload?_list _ rest short]
    dsimp only
    rw [if_pos (by rw [← List.append_assoc, List.length_append, length_header_payload]; rfl)]
  change (item _).bind _ = _
  rw [listed]
  change (match parts.whole? (Rlp.encodeAll t.items) with
    | some t => return t
    | none => refuse : Reader Transaction) rest = _
  rw [(reads_parts sized).whole?]
  rfl

end Wire

namespace Transaction

/-- A transaction with the three numbers that follow its fields. -/
def wire (t : Transaction) (v r s : Nat) : Wire.Transaction :=
  ⟨t.nonce, t.gasPrice, t.gasLimit, t.target.bytes, t.value.toNat, t.input, v, r, s⟩

theorem Sized.wire {t : Transaction} (sized : t.Sized) {v r s : Nat} (hv : v < 2 ^ wordBits)
    (hr : r < 2 ^ wordBits) (hs : s < 2 ^ wordBits) : (t.wire v r s).Sized where
  nonce := sized.nonce
  gasPrice := sized.gasPrice
  gasLimit := sized.gasLimit
  target := t.target.length_bytes
  value := t.value.toNat_lt
  input := sized.input
  v := hv
  r := hr
  s := hs

theorem parityField_lt (t : Transaction) (s : Curve.Secp256k1.Signature) :
    t.parityField s < 2 ^ wordBits := by
  have id := t.chainId.toNat_lt
  have word : 2 ^ wordBits = 2 ^ 256 := rfl
  unfold parityField
  split <;> omega

/-- What is signed: the fields, the chain's id and two zeros. -/
def preimage (t : Transaction) : Bytes :=
  (Rlp.list (t.wire t.chainId.toNat 0 0).items).encode

theorem digest_eq (t : Transaction) : t.digest = Hash.keccak256 t.preimage := rfl

theorem reads_preimage {t : Transaction} (sized : t.Sized) :
    Wire.transaction.Reads t.preimage (t.wire t.chainId.toNat 0 0) :=
  Wire.reads_transaction (sized.wire (Nat.lt_trans t.chainId.toNat_lt (by decide)) (by decide)
    (by decide))

def wireSigned (t : Transaction) (s : Curve.Secp256k1.Signature) : Wire.Transaction :=
  t.wire (t.parityField s) s.r s.s

theorem encodeSigned_eq (t : Transaction) (s : Curve.Secp256k1.Signature) :
    t.encodeSigned s = (Rlp.list (t.wireSigned s).items).encode := rfl

theorem reads_signed {t : Transaction} (sized : t.Sized) (key : Curve.Secp256k1.PrivateKey) :
    Wire.transaction.Reads (t.signed key) (t.wireSigned (key.sign t.digest)) := by
  obtain ⟨r, s⟩ := key.sign_lt t.digest
  rw [signed, encodeSigned_eq]
  exact Wire.reads_transaction (sized.wire (t.parityField_lt _) r s)

end Transaction

end TokenFaucet.Evm
