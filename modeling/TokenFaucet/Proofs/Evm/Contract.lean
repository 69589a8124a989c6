import TokenFaucet.Proofs.Bytes.Number
import TokenFaucet.Proofs.Evm.Address
import TokenFaucet.Proofs.Evm.Answers
import TokenFaucet.Proofs.Evm.Outcomes

set_option autoImplicit false

attribute [local instance (2000)] instPowNat

namespace TokenFaucet

open Network (Outcome Request)

namespace Evm

variable {bs : Bytes} {n : Nat}

/-- The digits of a call: those of the method, and of the word of its argument. -/
theorem TokenMethod.encode_callData (method : TokenMethod) :
    Bytes.Hex.encode method.callData = match method with
      | .symbol => "95d89b41"
      | .decimals => "313ce567"
      | .balanceOf holder => "70a08231000000000000000000000000" ++ Bytes.Hex.encode holder.bytes := by
  cases method with
  | symbol => rfl
  | decimals => rfl
  | balanceOf holder =>
      rw [callData, Address.addressWord_eq, ← List.append_assoc, Bytes.Hex.encode_append]
      rfl

namespace ReturnData

theorem word?_eq_some_iff {offset : Nat} :
    word? bs offset = some n ↔
      (bs.drop offset).take 32 = Bytes.bigEndian 32 n ∧ n < 256 ^ 32 := by
  rw [Bytes.eq_bigEndian_iff]
  simp only [word?, Option.ite_none_right_eq_some, Option.some.injEq]

/-- The amount that is read is the one whose 32 bytes are the first. -/
theorem amount?_eq_some_iff {a : MinorUnits} :
    amount? bs = some a ↔ bs.take 32 = Bytes.bigEndian 32 a.toNat := by
  have small : a.toNat < 256 ^ 32 := a.toNat_lt
  change (word? bs 0).bind MinorUnits.ofNat? = some a ↔ _
  simp only [Option.bind_eq_some_iff, MinorUnits.ofNat?_eq_some_iff, word?_eq_some_iff, List.drop_zero]
  constructor
  · rintro ⟨n, ⟨word, -⟩, rfl⟩
    exact word
  · intro word
    exact ⟨a.toNat, ⟨word, small⟩, rfl⟩

/-- The small number that is read is the last of the first 32 bytes. -/
theorem uint8?_eq_some_iff {d : UInt8} :
    uint8? bs = some d ↔ ∃ front : Bytes, front.length = 31 ∧ bs.take 32 = front ++ [d] := by
  change (word? bs 0).bind (fun n => some (UInt8.ofNat n)) = some d ↔ _
  simp only [Option.bind_eq_some_iff, word?, List.drop_zero, Option.ite_none_right_eq_some,
    Option.some.injEq]
  constructor
  · rintro ⟨n, ⟨length, rfl⟩, last⟩
    obtain none | ⟨front, b, word⟩ := List.eq_nil_or_concat (bs.take 32)
    · rw [none] at length
      cases length
    · rw [List.concat_eq_append] at word
      rw [word, List.length_append] at length
      rw [word, Bytes.ofNat_toNat_snoc] at last
      exact ⟨front, by simpa using length, last ▸ word⟩
  · rintro ⟨front, length, word⟩
    rw [word]
    exact ⟨_, ⟨by rw [List.length_append, length]; rfl, rfl⟩, Bytes.ofNat_toNat_snoc front d⟩

/-- The text that is read stands behind the word of its length, at the offset in the first word. -/
theorem text?_eq_some_iff {text : String} :
    text? bs = some text ↔ ∃ offset length, word? bs 0 = some offset ∧ word? bs offset = some length ∧
      offset + 32 + length ≤ bs.length ∧
      text = Bytes.lossyText ((bs.drop (offset + 32)).take length) := by
  change ((word? bs 0).bind fun offset => (word? bs offset).bind fun length =>
    if bs.length < offset + 32 + length then none
    else some (Bytes.lossyText ((bs.drop (offset + 32)).take length))) = some text ↔ _
  simp only [Option.bind_eq_some_iff, Option.ite_none_left_eq_some, Option.some.injEq, Nat.not_lt]
  constructor
  · rintro ⟨offset, first, length, second, within, rfl⟩
    exact ⟨offset, length, first, second, within, rfl⟩
  · rintro ⟨offset, length, first, second, within, rfl⟩
    exact ⟨offset, first, length, second, within, rfl⟩

end ReturnData

variable {outcome : Outcome}

/-- The outcome of a question to a contract: a result that is these bytes. -/
def Returns (outcome : Outcome) (data : Bytes) : Prop :=
  ∃ result, Answers some outcome result ∧ Reply.IsBytes result data

/-- The first word that a contract returned is an amount. -/
def ReturnsAmount (outcome : Outcome) (a : MinorUnits) : Prop :=
  ∃ data, Returns outcome data ∧ data.take 32 = Bytes.bigEndian 32 a.toNat

/-- The first word that a contract returned ends with a byte. -/
def ReturnsByte (outcome : Outcome) (b : UInt8) : Prop :=
  ∃ data, Returns outcome data ∧ ∃ front : Bytes, front.length = 31 ∧ data.take 32 = front ++ [b]

theorem Returns.unique {data data' : Bytes} (returns : Returns outcome data)
    (returns' : Returns outcome data') : data = data' := by
  obtain ⟨node, answers, bytes⟩ := returns
  obtain ⟨node', answers', bytes'⟩ := returns'
  cases answers.unique answers'
  exact Except.ok.inj ((Reply.bytes_eq_ok_iff.2 bytes).symm.trans (Reply.bytes_eq_ok_iff.2 bytes'))

/-- Whatever is read of the bytes that were returned is one value. -/
theorem Returns.value_unique {α : Type} {read : Bytes → Option α} {data data' : Bytes} {a a' : α}
    (returns : Returns outcome data) (returns' : Returns outcome data') (value : read data = some a)
    (value' : read data' = some a') : a = a' := by
  cases returns.unique returns'
  exact Option.some.inj (value.symm.trans value')

theorem ReturnsAmount.unique {a a' : MinorUnits} (returns : ReturnsAmount outcome a)
    (returns' : ReturnsAmount outcome a') : a = a' := by
  obtain ⟨data, told, word⟩ := returns
  obtain ⟨data', told', word'⟩ := returns'
  exact told.value_unique told' (ReturnData.amount?_eq_some_iff.2 word)
    (ReturnData.amount?_eq_some_iff.2 word')

theorem ReturnsByte.unique {b b' : UInt8} (returns : ReturnsByte outcome b)
    (returns' : ReturnsByte outcome b') : b = b' := by
  obtain ⟨data, told, word⟩ := returns
  obtain ⟨data', told', word'⟩ := returns'
  exact told.value_unique told' (ReturnData.uint8?_eq_some_iff.2 word)
    (ReturnData.uint8?_eq_some_iff.2 word')

end Evm

namespace EvmChain

variable {outcome : Outcome}

/-- What a contract is asked: a method and its arguments in digits, as of the latest block. -/
def question (c : EvmChain) (contract : Evm.Address) (input : String) : Request :=
  ⟨c.client, .call "eth_call" (some (.array
    [.object [("input", .string input), ("to", .string ("0x" ++ Bytes.Hex.encode contract.bytes))],
      .string "latest"]))⟩

/-- The question of what the signer holds. -/
def balanceQuestion (c : EvmChain) (contract : Evm.Address) : Request :=
  c.question contract
    ("0x70a08231000000000000000000000000" ++ Bytes.Hex.encode c.signer.address.bytes)

def decimalsQuestion (c : EvmChain) (contract : Evm.Address) : Request :=
  c.question contract "0x313ce567"

theorem tokenRequest_eq (c : EvmChain) (contract : Evm.Address) (method : Evm.TokenMethod) :
    c.tokenRequest contract method =
      c.question contract ("0x" ++ Bytes.Hex.encode method.callData) := rfl

theorem tokenRequest_balanceOf (c : EvmChain) (contract : Evm.Address) :
    c.tokenRequest contract (.balanceOf c.signer.address) = c.balanceQuestion contract := by
  rw [tokenRequest_eq, Evm.TokenMethod.encode_callData, ← String.append_assoc]
  rfl

theorem tokenRequest_decimals (c : EvmChain) (contract : Evm.Address) :
    c.tokenRequest contract .decimals = c.decimalsQuestion contract := by
  rw [tokenRequest_eq, Evm.TokenMethod.encode_callData]
  rfl

/-- A call of a contract is answered by what the contract returned, if its data are read. -/
theorem answers_tokenResult_iff {α : Type} {read : Bytes → Option α} {a : α}
    (nonempty : read [] = none) :
    Evm.Answers (tokenResult? read) outcome a ↔
      ∃ data, Evm.Returns outcome data ∧ read data = some a := by
  have result {node : Json.Node} :
      tokenResult? read node = some a ↔ ∃ data, Evm.Reply.IsBytes node data ∧ read data = some a := by
    simp only [tokenResult?, Option.bind_eq_some_iff, toOption_eq_some_iff, Evm.Reply.bytes_eq_ok_iff]
    refine exists_congr fun data => and_congr_right fun _ => ?_
    cases data with
    | nil => rw [nonempty]; rfl
    | cons b rest => rfl
  rw [Evm.answers_iff]
  simp only [result]
  constructor
  · rintro ⟨node, answers, data, bytes, value⟩
    exact ⟨data, ⟨node, answers, bytes⟩, value⟩
  · rintro ⟨data, ⟨node, answers, bytes⟩, value⟩
    exact ⟨node, answers, data, bytes, value⟩

variable {c : EvmChain} {method : Evm.TokenMethod}

theorem tokenAnswer_amount_iff {a : MinorUnits} :
    c.tokenAnswer method Evm.ReturnData.amount? outcome = .ok a ↔ Evm.ReturnsAmount outcome a := by
  rw [tokenAnswer_eq_ok_iff, answers_tokenResult_iff (show Evm.ReturnData.amount? [] = none from rfl)]
  simp only [Evm.ReturnData.amount?_eq_some_iff, Evm.ReturnsAmount]

theorem tokenAnswer_uint8_iff {b : UInt8} :
    c.tokenAnswer method Evm.ReturnData.uint8? outcome = .ok b ↔ Evm.ReturnsByte outcome b := by
  rw [tokenAnswer_eq_ok_iff, answers_tokenResult_iff (show Evm.ReturnData.uint8? [] = none from rfl)]
  simp only [Evm.ReturnData.uint8?_eq_some_iff, Evm.ReturnsByte]

end EvmChain

end TokenFaucet
