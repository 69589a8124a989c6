import TokenFaucet.Solana.Chain
import TokenFaucet.Proofs.Network.Answers
import TokenFaucet.Proofs.Network.Inquiry

set_option autoImplicit false

attribute [local instance (2000)] instPowNat

namespace TokenFaucet.SolanaChain

open Network (Attempt Outcome Request inquire)

variable {α : Type}

/-- Reads the outcome of a call of the node. -/
def answer (c : SolanaChain) (method : String) (reading : Json.Reading α) (outcome : Outcome) :
    Except ChainError α :=
  ((Network.answerBody c.client.url outcome).bind (Network.resultOf reading)).mapError
    (.ofCall c.client.limit method)

theorem call_eq (c : SolanaChain) (method : String) (params : List Json)
    (reading : Json.Reading α) :
    c.call method params reading =
      inquire ⟨c.client, .call method (some (.array params))⟩ (c.answer method reading) := by
  rw [call, Network.call_eq, Network.inquire_adapt]
  rfl

def balanceRequest (c : SolanaChain) (address : String) : Request :=
  ⟨c.client, .call "getBalance" (some (.array [.string address, finalized]))⟩

theorem lamports_lt (lamports : UInt64) : lamports.toNat < 2 ^ MinorUnits.width :=
  Nat.lt_trans lamports.toNat_lt (by decide)

def balanceAnswer (c : SolanaChain) (outcome : Outcome) : Except ChainError MinorUnits :=
  (c.answer "getBalance" (valueReading Json.Reading.uint64) outcome).map fun lamports =>
    ⟨lamports.toNat, lamports_lt lamports⟩

theorem balance_eq (c : SolanaChain) (address : String) :
    c.balance address = inquire (c.balanceRequest address) c.balanceAnswer := by
  rw [balance, call_eq, Network.inquire_bind_pure]
  rfl

def blockhashRequest (c : SolanaChain) : Request :=
  ⟨c.client, .call "getLatestBlockhash" (some (.array [finalized]))⟩

def blockhashOfText (text : String) : Except ChainError Bytes :=
  match Bytes.Base58.decodeExact? 32 text with
  | some hash => .ok hash
  | none => .error (.badBlockhash text)

def blockhashAnswer (c : SolanaChain) (outcome : Outcome) : Except ChainError Bytes :=
  (c.answer "getLatestBlockhash" (valueReading blockhashReading) outcome).bind blockhashOfText

theorem latestBlockhash_eq (c : SolanaChain) :
    c.latestBlockhash = inquire c.blockhashRequest c.blockhashAnswer := by
  have further (text : String) : (match Bytes.Base58.decodeExact? 32 text with
      | some hash => return hash
      | none => throw (.badBlockhash text) : Attempt ChainError Bytes) =
        liftM (blockhashOfText text) := by
    unfold blockhashOfText
    cases Bytes.Base58.decodeExact? 32 text <;> rfl
  rw [latestBlockhash, call_eq]
  exact (congrArg (inquire _ _ >>= ·) (funext further)).trans (Network.inquire_bind_lift ..)

/-- The transfer that pays a receiver from the signer's account. -/
def transfer (c : SolanaChain) (receiver : Bytes) (lamports : UInt64) (blockhash : Bytes) :
    Solana.Transfer :=
  ⟨c.signer.publicKey, receiver, lamports, blockhash⟩

/-- The bytes that are submitted for a transfer. -/
def signed (c : SolanaChain) (t : Solana.Transfer) : Bytes :=
  Solana.signedMessage (c.signer.key.sign t.message) t.message

def submissionRequest (c : SolanaChain) (bytes : Bytes) : Request :=
  ⟨c.client, .call "sendTransaction" (some (.array
    [.string (Bytes.Base64.encode bytes), .object [("encoding", .string "base64")]]))⟩

/-- Reads the id of a transaction that the node accepted. -/
def submissionAnswer (c : SolanaChain) (outcome : Outcome) : Except ChainError String :=
  (c.answer "sendTransaction" Json.Reading.string outcome).mapError .notSubmitted

theorem send_eq (c : SolanaChain) {address : String} {amount : MinorUnits} {receiver : Bytes}
    {lamports : UInt64} (input : transferInput address amount = .ok (receiver, lamports)) :
    c.send address amount = (do
      let blockhash ← inquire c.blockhashRequest c.blockhashAnswer
      inquire (c.submissionRequest (c.signed (c.transfer receiver lamports blockhash)))
        c.submissionAnswer) := by
  unfold send
  rw [input]
  change (do let blockhash ← c.latestBlockhash; _ : Attempt ChainError String) = _
  simp only [latestBlockhash_eq, call_eq, Network.inquire_adapt]
  rfl

theorem send_of_error (c : SolanaChain) {address : String} {amount : MinorUnits} {e : ChainError}
    (input : transferInput address amount = .error e) : c.send address amount = throw e := by
  unfold send
  rw [input]
  rfl

/-- A transfer that succeeds asked for a blockhash and submitted the bytes made with it. -/
theorem send_course (c : SolanaChain) {address : String} {amount : MinorUnits}
    {turns : List Network.Turn} {id : String}
    (course : Dialogue.Course (c.send address amount).run turns (.ok id)) :
    ∃ receiver lamports blockhash o₁ o₂, transferInput address amount = .ok (receiver, lamports) ∧
      c.blockhashAnswer o₁ = .ok blockhash ∧ c.submissionAnswer o₂ = .ok id ∧
      turns = [⟨.exchange c.blockhashRequest, o₁⟩,
        ⟨.exchange (c.submissionRequest (c.signed (c.transfer receiver lamports blockhash))), o₂⟩] := by
  cases input : transferInput address amount with
  | error e =>
      rw [c.send_of_error input] at course
      exact nomatch (Dialogue.course_throw_iff.1 course).2
  | ok parts =>
      rw [c.send_eq input] at course
      simp only [Dialogue.course_bind_iff, Network.course_inquire_iff, reduceCtorEq, false_and,
        exists_false, false_or] at course
      obtain ⟨blockhash, _, _, rfl, ⟨o₁, rfl, answered⟩, o₂, rfl, named⟩ := course
      exact ⟨_, _, blockhash, o₁, o₂, rfl, answered.symm, named.symm, rfl⟩

section Answers

/-- The outcome names a recent block. -/
def AnswersBlockhash : Outcome → Bytes → Prop :=
  Network.AnswersHash (valueReading blockhashReading)

theorem answer_eq_ok_iff {α : Type} {c : SolanaChain} {method : String} {reading : Json.Reading α}
    {outcome : Outcome} {a : α} :
    c.answer method reading outcome = .ok a ↔ Network.Answers reading outcome a := by
  rw [answer, mapError_eq_ok_iff, Network.answer_eq_ok_iff]

theorem blockhashOfText_eq_ok_iff {text : String} {blockhash : Bytes} :
    blockhashOfText text = .ok blockhash ↔
      Bytes.Base58.decode text = .ok blockhash ∧ blockhash.length = 32 := by
  rw [← Bytes.Base58.decodeExact?_eq_some_iff, blockhashOfText]
  cases Bytes.Base58.decodeExact? 32 text <;> simp

theorem blockhashAnswer_eq_ok_iff {c : SolanaChain} {outcome : Outcome} {blockhash : Bytes} :
    c.blockhashAnswer outcome = .ok blockhash ↔ AnswersBlockhash outcome blockhash := by
  rw [blockhashAnswer, bind_eq_ok_iff]
  simp only [answer_eq_ok_iff, blockhashOfText_eq_ok_iff, AnswersBlockhash, Network.AnswersHash]

end Answers

end TokenFaucet.SolanaChain
