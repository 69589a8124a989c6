import TokenFaucet.Proofs.Evm.Address
import TokenFaucet.Proofs.Evm.Lane
import TokenFaucet.Proofs.Evm.Outcomes
import TokenFaucet.Proofs.Evm.Wire

set_option autoImplicit false

attribute [local instance (2000)] instPowNat

namespace TokenFaucet.EvmChain

open Dialogue (Course)
open Evm (Wire.Transaction)
open Network (Exchanged Outcome Request Turn exchanges inquire)

/-- The outcome answers with a quantity below a bound. -/
def AnswersQuantity (bound : Nat) (outcome : Outcome) (n : Nat) : Prop :=
  Evm.Answers (fun node => (Evm.Reply.quantity bound node).toOption) outcome n

/-- The transaction makes the call of a transfer: of the native currency, it gives the receiver the
amount and may use as much gas as was estimated; of a token, it has the contract move the amount, and
may use four times as much, as far as 64 bits can say so. -/
def Calls (receiver : String) (amount : MinorUnits) (gas : Nat) (t : Wire.Transaction) :
    Option String → Prop
  | none => Bytes.Hex.decodeExact 20 receiver = .ok t.target ∧ t.value = amount.toNat ∧
      t.input = [] ∧ t.gasLimit = gas
  | some token => Bytes.Hex.decodeExact 20 token = .ok t.target ∧ t.value = 0 ∧
      (∃ account word, Bytes.Hex.decodeExact 20 receiver = .ok account ∧ word.length = 32 ∧
        Bytes.toNat word = amount.toNat ∧
        t.input = [0xA9, 0x05, 0x9C, 0xBB] ++ (List.replicate 12 0 ++ account) ++ word) ∧
      t.gasLimit = min (4 * gas) (UInt64.size - 1)

/-- The signer signs the transaction with the chain's id and two zeros in the place of the signature,
and the id is also part of the number that tells the parity of the signature. -/
structure Signs (c : EvmChain) (t : Wire.Transaction) (preimage : Bytes)
    (signature : Curve.Secp256k1.Signature) : Prop where
  written : preimage = (Evm.Rlp.list
    { t with v := c.chainId.toNat, r := 0, s := 0 : Wire.Transaction }.items).encode
  read : Evm.Wire.transaction.whole? preimage =
    some { t with v := c.chainId.toNat, r := 0, s := 0 }
  made : signature = c.signer.key.sign (Hash.keccak256 preimage)
  r : t.r = signature.r
  s : t.s = signature.s
  v : t.v = if signature.odd then 36 + 2 * c.chainId.toNat else 35 + 2 * c.chainId.toNat

/-- The transaction carries a transfer out, with what the node answered. -/
structure Carries (c : EvmChain) (receiver : String) (amount : MinorUnits) (token : Option String)
    (nonce gasPrice gas : Nat) (t : Wire.Transaction) : Prop where
  nonce : t.nonce = nonce
  gasPrice : t.gasPrice = gasPrice
  calls : Calls receiver amount gas t token
  signs : ∃ preimage signature, c.Signs t preimage signature

theorem signs_wireSigned {c : EvmChain} {t : Evm.Transaction} (own : t.chainId = c.chainId)
    (sized : t.Sized) {signature : Curve.Secp256k1.Signature}
    (made : signature = c.signer.key.sign t.digest) :
    c.Signs (t.wireSigned signature) t.preimage signature where
  written := by
    rw [← own]
    rfl
  read := by
    rw [← own]
    exact (Evm.Transaction.reads_preimage sized).whole?
  made := by rw [made, t.digest_eq]
  r := rfl
  s := rfl
  v := by
    change t.parityField signature = _
    rw [Evm.Transaction.parityField, own]
    split <;> omega

theorem toNat_amountWord (amount : MinorUnits) :
    Bytes.toNat (Evm.TokenMethod.amountWord amount) = amount.toNat := by
  have small : amount.toNat < 256 ^ 32 := amount.toNat_lt
  rw [Evm.TokenMethod.amountWord, Bytes.toNat_bigEndian, Nat.mod_eq_of_lt small]

theorem calls_wireSigned {c : EvmChain} {receiver : String} {amount : MinorUnits}
    {token : Option String} {account : Evm.Address} {contract : Option Evm.Address}
    {nonce gasPrice gas : Nat} (signature : Curve.Secp256k1.Signature)
    (readReceiver : address receiver = .ok account) (readToken : tokenAddress token = .ok contract) :
    Calls receiver amount gas
      ((c.transaction account amount contract nonce gasPrice gas).wireSigned signature) token := by
  have decoded := address_eq_ok_iff.1 readReceiver
  cases token with
  | none =>
      cases readToken
      exact ⟨decoded, rfl, rfl, rfl⟩
  | some text =>
      obtain ⟨contract, read, rfl⟩ := map_eq_ok_iff.1 readToken
      refine ⟨address_eq_ok_iff.1 read, rfl,
        ⟨account.bytes, _, decoded, Bytes.length_bigEndian .., toNat_amountWord amount, ?_⟩, rfl⟩
      rw [← Evm.Address.addressWord_eq]
      rfl

/-- The bytes that are submitted for a transfer are read as a transaction that carries it out. -/
theorem carries_of_signed {c : EvmChain} {receiver : String} {amount : MinorUnits}
    {token : Option String} {account : Evm.Address} {contract : Option Evm.Address}
    {nonce gasPrice gas : Nat} (readReceiver : address receiver = .ok account)
    (readToken : tokenAddress token = .ok contract)
    (sized : (c.transaction account amount contract nonce gasPrice gas).Sized) :
    ∃ t, Evm.Wire.transaction.whole?
        ((c.transaction account amount contract nonce gasPrice gas).signed c.signer.key) = some t ∧
      c.Carries receiver amount token nonce gasPrice gas t := by
  have read := (Evm.Transaction.reads_signed sized c.signer.key).whole?
  generalize made : c.signer.key.sign _ = signature at read
  refine ⟨_, read, ?_⟩
  exact {
    nonce := rfl
    gasPrice := rfl
    calls := calls_wireSigned signature readReceiver readToken
    signs := ⟨_, signature, signs_wireSigned rfl sized made.symm⟩ }

/-- What a transfer asks its node, with or without the chain's lane. -/
theorem exchanges_of_send {c : EvmChain} {receiver : String} {amount : MinorUnits}
    {token : Option String} {account : Evm.Address} {contract : Option Evm.Address}
    {turns : List Turn} {result : Except ChainError String}
    (readReceiver : address receiver = .ok account) (readToken : tokenAddress token = .ok contract)
    (course : Course (c.send receiver amount token).run turns result) :
    ∃ inner, exchanges turns = exchanges inner ∧
      Course (c.submit account amount contract).run inner result := by
  rw [c.send_eq amount readReceiver readToken] at course
  split at course
  · obtain ⟨inner, rfl, held⟩ := Network.course_holding_iff.1 course
    exact ⟨inner, by simp, held⟩
  · exact ⟨turns, rfl, course⟩

/-- What the program of a transfer asks, and what it submits in the end. -/
theorem submit_exchanges {c : EvmChain} {receiver : String} {amount : MinorUnits}
    {token : Option String} {account : Evm.Address} {contract : Option Evm.Address}
    {turns : List Turn} {result : Except ChainError String}
    (readReceiver : address receiver = .ok account) (readToken : tokenAddress token = .ok contract)
    (course : Course (c.submit account amount contract).run turns result) :
    ∃ o₁ rest, exchanges turns = (c.countRequest, o₁) :: rest ∧
      ∀ nonce, AnswersQuantity UInt64.size o₁ nonce →
        ∃ o₂ rest', rest = (c.priceRequest, o₂) :: rest' ∧
          ∀ gasPrice, AnswersQuantity (2 ^ gasPriceBits) o₂ gasPrice →
            ∃ asked o₃ rest'', rest' = (asked, o₃) :: rest'' ∧ method asked = "eth_estimateGas" ∧
              ∀ gas, AnswersQuantity UInt64.size o₃ gas →
                ∃ submitted o₄ raw t, rest'' = [(submitted, o₄)] ∧
                  submitted? submitted = some raw ∧ Evm.Wire.transaction.whole? raw = some t ∧
                  c.Carries receiver amount token nonce gasPrice gas t := by
  rw [c.submit_eq] at course
  obtain ⟨o₁, rest, rfl, onward⟩ := Network.course_inquire_bind_iff.1 course
  refine ⟨o₁, _, rfl, fun nonce answers => ?_⟩
  have counted : c.countAnswer o₁ = .ok nonce := rpcAnswer_eq_ok_iff.2 answers
  obtain ⟨e, failed, -⟩ | ⟨_, found, further⟩ := onward
  · exact nomatch counted.symm.trans failed
  cases counted.symm.trans found
  obtain ⟨o₂, rest', rfl, onward⟩ := Network.course_inquire_bind_iff.1 further
  refine ⟨o₂, _, rfl, fun gasPrice answers => ?_⟩
  have priced : c.priceAnswer o₂ = .ok gasPrice := rpcAnswer_eq_ok_iff.2 answers
  obtain ⟨e, failed, -⟩ | ⟨_, found, further⟩ := onward
  · exact nomatch priced.symm.trans failed
  cases priced.symm.trans found
  obtain ⟨o₃, rest'', rfl, onward⟩ := Network.course_inquire_bind_iff.1 further
  refine ⟨_, o₃, _, rfl, rfl, fun gas answers => ?_⟩
  have estimated : c.estimateAnswer o₃ = .ok gas := rpcAnswer_eq_ok_iff.2 answers
  obtain ⟨e, failed, -⟩ | ⟨_, found, further⟩ := onward
  · exact nomatch estimated.symm.trans failed
  cases estimated.symm.trans found
  obtain ⟨o₄, rfl, -⟩ := Network.course_inquire_iff.1 further
  have sized := c.sized_transaction account amount contract (countAnswer_lt counted)
    (priceAnswer_lt priced) (estimateAnswer_lt estimated)
  obtain ⟨t, read, carries⟩ := carries_of_signed readReceiver readToken sized
  exact ⟨_, o₄, _, t, rfl, c.submitted?_submissionRequest _, read, carries⟩

/-- A transfer to a valid receiver asks for a nonce, the price of gas and an estimate, and whatever it
is answered, what it submits next is read as a transaction with exactly that transfer. Only a token
without an account ends it before it asks anything. -/
theorem send_carries (c : EvmChain) {receiver : String} (amount : MinorUnits) (token : Option String)
    (valid : Evm.Address.isValid receiver = true) {turns : List Turn}
    {result : Except ChainError String}
    (course : Course (c.send receiver amount token).run turns result) :
    (∃ text why, token = some text ∧ Evm.Address.parse text = .error why ∧ turns = []) ∨
    ∃ o₁ rest, exchanges turns = (c.countRequest, o₁) :: rest ∧
      ∀ nonce, AnswersQuantity UInt64.size o₁ nonce →
        ∃ o₂ rest', rest = (c.priceRequest, o₂) :: rest' ∧
          ∀ gasPrice, AnswersQuantity (2 ^ gasPriceBits) o₂ gasPrice →
            ∃ asked o₃ rest'', rest' = (asked, o₃) :: rest'' ∧ method asked = "eth_estimateGas" ∧
              ∀ gas, AnswersQuantity UInt64.size o₃ gas →
                ∃ submitted o₄ raw t, rest'' = [(submitted, o₄)] ∧
                  submitted? submitted = some raw ∧ Evm.Wire.transaction.whole? raw = some t ∧
                  c.Carries receiver amount token nonce gasPrice gas t := by
  obtain ⟨account, readReceiver⟩ := address_of_isValid valid
  cases readToken : tokenAddress token with
  | ok contract =>
      obtain ⟨inner, same, onward⟩ := exchanges_of_send readReceiver readToken course
      rw [same]
      exact .inr (submit_exchanges readReceiver readToken onward)
  | error e =>
      cases token with
      | none => cases readToken
      | some text =>
          rw [c.send_of_badToken amount readReceiver readToken] at course
          obtain ⟨rfl, -⟩ := Dialogue.course_throw_iff.1 course
          cases parsed : Evm.Address.parse text with
          | error why => exact .inl ⟨text, why, rfl, parsed, rfl⟩
          | ok contract =>
              rw [tokenAddress, address, parsed] at readToken
              cases readToken

/-- A transfer that is answered goes on to its submission, which may end in any way. -/
theorem exists_course (c : EvmChain) {receiver : String} (amount : MinorUnits)
    {token : Option String} {account : Evm.Address} {contract : Option Evm.Address}
    {nonce gasPrice gas : Nat} {o₁ o₂ o₃ : Outcome} (readReceiver : address receiver = .ok account)
    (readToken : tokenAddress token = .ok contract) (counted : c.countAnswer o₁ = .ok nonce)
    (priced : c.priceAnswer o₂ = .ok gasPrice) (estimated : c.estimateAnswer o₃ = .ok gas)
    (o₄ : Outcome) :
    ∃ turns submitted, Course (c.send receiver amount token).run turns (c.submissionAnswer o₄) ∧
      exchanges turns = [(c.countRequest, o₁), (c.priceRequest, o₂),
        (c.estimateRequest account amount contract, o₃), (submitted, o₄)] := by
  have inner : Course (c.submit account amount contract).run
      [⟨.exchange c.countRequest, o₁⟩, ⟨.exchange c.priceRequest, o₂⟩,
        ⟨.exchange (c.estimateRequest account amount contract), o₃⟩,
        ⟨.exchange (c.submissionRequest
          (c.transaction account amount contract nonce gasPrice gas)), o₄⟩]
      (c.submissionAnswer o₄) := by
    rw [c.submit_eq]
    refine Network.course_inquire_bind_iff.2 ⟨o₁, _, rfl, .inr ⟨_, counted, ?_⟩⟩
    refine Network.course_inquire_bind_iff.2 ⟨o₂, _, rfl, .inr ⟨_, priced, ?_⟩⟩
    refine Network.course_inquire_bind_iff.2 ⟨o₃, _, rfl, .inr ⟨_, estimated, ?_⟩⟩
    exact Network.course_inquire_iff.2 ⟨o₄, rfl, rfl⟩
  rw [c.send_eq amount readReceiver readToken]
  cases c.serializes with
  | true => exact ⟨_, _, Network.course_holding_iff.2 ⟨_, rfl, inner⟩, rfl⟩
  | false => exact ⟨_, _, inner, rfl⟩

def exampleChain : EvmChain where
  profile := ⟨"18446744073709551615", "Devnet", "http://node.example", "ETH", 18⟩
  chainId := 18446744073709551615
  client := ⟨"evm:18446744073709551615",
    ⟨"http", .server "" "" (.domain "node.example") none, "/", none, none⟩, 5000, 0⟩
  signer := .ofKey ⟨2, by decide, by decide⟩
  serializes := true

def exampleReceiver : String := "0x70997970C51812dc3A010C7d01b50e0d17dc79C8"

def exampleToken : String := "0x5fbdb2315678afecb367f032d93f642f64180aa3"

def largestAmount : MinorUnits := ⟨2 ^ MinorUnits.width - 1, by decide⟩

def exampleWord : Outcome := .answer 200 "\x7b\"id\":0,\"result\":\"0xffffffffffffffff\"\x7d"

def examplePrice : Outcome :=
  .answer 200 "\x7b\"id\":1,\"result\":\"0xffffffffffffffffffffffffffffffff\"\x7d"

theorem answers_exampleWord : AnswersQuantity UInt64.size exampleWord (UInt64.size - 1) := by
  have counted : (exampleChain.countAnswer exampleWord).toOption = some (UInt64.size - 1) := by
    decide +kernel
  exact rpcAnswer_eq_ok_iff.1 (toOption_eq_some_iff.1 counted)

theorem answers_examplePrice :
    AnswersQuantity (2 ^ gasPriceBits) examplePrice (2 ^ gasPriceBits - 1) := by
  have priced : (exampleChain.priceAnswer examplePrice).toOption = some (2 ^ gasPriceBits - 1) := by
    decide +kernel
  exact rpcAnswer_eq_ok_iff.1 (toOption_eq_some_iff.1 priced)

/-- The largest numbers: a transfer of a token on a chain that serializes its submissions. -/
theorem send_carries_largest : Evm.Address.isValid exampleReceiver = true ∧
    ∃ turns result asked₁ asked₂ asked₃ submitted o₄ raw t,
      Course (exampleChain.send exampleReceiver largestAmount (some exampleToken)).run turns result ∧
      exchanges turns = [(asked₁, exampleWord), (asked₂, examplePrice), (asked₃, exampleWord),
        (submitted, o₄)] ∧
      submitted? submitted = some raw ∧ Evm.Wire.transaction.whole? raw = some t ∧
      exampleChain.Carries exampleReceiver largestAmount (some exampleToken) (UInt64.size - 1)
        (2 ^ gasPriceBits - 1) (UInt64.size - 1) t := by
  have valid : Evm.Address.isValid exampleReceiver = true := by decide
  obtain ⟨account, readReceiver⟩ := address_of_isValid valid
  obtain ⟨contract, read⟩ := address_of_isValid (show Evm.Address.isValid exampleToken by decide)
  have readToken : tokenAddress (some exampleToken) = .ok (some contract) :=
    congrArg (Except.map some) read
  have counted : exampleChain.countAnswer exampleWord = .ok (UInt64.size - 1) :=
    rpcAnswer_eq_ok_iff.2 answers_exampleWord
  have priced : exampleChain.priceAnswer examplePrice = .ok (2 ^ gasPriceBits - 1) :=
    rpcAnswer_eq_ok_iff.2 answers_examplePrice
  have estimated : exampleChain.estimateAnswer exampleWord = .ok (UInt64.size - 1) :=
    rpcAnswer_eq_ok_iff.2 answers_exampleWord
  obtain ⟨turns, submitted, course, asks⟩ := exampleChain.exists_course largestAmount readReceiver
    readToken counted priced estimated .timedOut
  obtain ⟨text, why, given, bad, -⟩ | ⟨_, _, first, further⟩ :=
    send_carries exampleChain largestAmount (some exampleToken) valid course
  · cases given
    rw [address, bad] at read
    cases read
  cases asks.symm.trans first
  obtain ⟨_, _, second, further⟩ := further _ answers_exampleWord
  cases second
  obtain ⟨_, _, _, third, -, further⟩ := further _ answers_examplePrice
  cases third
  obtain ⟨_, _, raw, t, last, submits, reads, carries⟩ := further _ answers_exampleWord
  cases last
  exact ⟨valid, turns, _, _, _, _, _, _, raw, t, course, asks, submits, reads, carries⟩

end TokenFaucet.EvmChain
