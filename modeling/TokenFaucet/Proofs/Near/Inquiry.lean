import TokenFaucet.Near.Chain
import TokenFaucet.Proofs.Network.Inquiry

set_option autoImplicit false

namespace TokenFaucet.NearChain

open Network (Attempt Outcome Request inquire)

variable {α : Type}

/-- Reads the outcome of a call of the node. -/
def answer (c : NearChain) (method : String) (reading : Json.Reading α) (outcome : Outcome) :
    Except ChainError α :=
  ((Network.answerBody c.client.url outcome).bind (Network.resultOf reading)).mapError
    (.ofCall c.client.limit method)

theorem call_eq (c : NearChain) (method : String) (params : Json) (reading : Json.Reading α) :
    c.call method params reading =
      inquire ⟨c.client, .call method (some params)⟩ (c.answer method reading) := by
  rw [call, Network.call_eq, Network.inquire_adapt]
  rfl

/-- The request for a view of the final state. -/
def viewRequest (c : NearChain) (what : String) (fields : List (String × Json)) : Request :=
  ⟨c.client, .call "query" (some (.object
    ([("request_type", .string what), ("finality", .string "final")] ++ fields)))⟩

def viewAnswer (c : NearChain) (reading : Json.Reading α) (outcome : Outcome) :
    Except ChainError α :=
  (c.answer "query" Network.anyValue outcome).bind (viewOf reading)

theorem view_eq (c : NearChain) (what : String) (fields : List (String × Json))
    (reading : Json.Reading α) :
    c.view what fields reading = inquire (c.viewRequest what fields) (c.viewAnswer reading) := by
  unfold view
  dsimp only
  rw [call_eq, Network.inquire_bind_lift]
  rfl

def balanceRequest (c : NearChain) (account : String) : Request :=
  c.viewRequest "view_account" [("account_id", .string account)]

def balanceAnswer (c : NearChain) (outcome : Outcome) : Except ChainError MinorUnits :=
  (c.viewAnswer accountReading outcome).bind accountAmount

theorem balance_eq (c : NearChain) (account : String) :
    c.balance account = inquire (c.balanceRequest account) c.balanceAnswer := by
  rw [balance, view_eq, Network.inquire_bind_lift]
  rfl

def nonceRequest (c : NearChain) : Request :=
  c.viewRequest "view_access_key"
    [("account_id", .string c.signer.accountId), ("public_key", .string c.signer.publicKeyText)]

/-- Reads the number of the last transaction of the signer's key. -/
def nonceAnswer (c : NearChain) : Outcome → Except ChainError UInt64 :=
  c.viewAnswer accessKeyReading

theorem accessKeyNonce_eq (c : NearChain) :
    c.accessKeyNonce = inquire c.nonceRequest c.nonceAnswer :=
  view_eq ..

def blockRequest (c : NearChain) : Request :=
  ⟨c.client, .call "block" (some (.object [("finality", .string "final")]))⟩

def blockIdOfText (text : String) : Except ChainError Bytes :=
  match Bytes.Base58.decodeExact? 32 text with
  | some hash => .ok hash
  | none => .error (.badBlockId text)

/-- Reads the hash of the last final block. -/
def blockAnswer (c : NearChain) (outcome : Outcome) : Except ChainError Bytes :=
  (c.answer "block" blockReading outcome).bind blockIdOfText

theorem finalBlockId_eq (c : NearChain) :
    c.finalBlockId = inquire c.blockRequest c.blockAnswer := by
  have further (text : String) : (match Bytes.Base58.decodeExact? 32 text with
      | some hash => return hash
      | none => throw (.badBlockId text) : Attempt ChainError Bytes) =
        liftM (blockIdOfText text) := by
    unfold blockIdOfText
    cases Bytes.Base58.decodeExact? 32 text <;> rfl
  rw [finalBlockId, call_eq]
  exact (congrArg (inquire _ _ >>= ·) (funext further)).trans (Network.inquire_bind_lift ..)

/-- The transfer that pays a receiver from the signer's account. -/
def transfer (c : NearChain) (receiver : String) (deposit : Nat) (nonce : UInt64)
    (blockId : Bytes) : Near.Transfer :=
  { signerId := c.signer.accountId
    publicKey := c.signer.publicKey
    nonce := nonce.toNat + 1
    receiverId := receiver
    blockId := blockId
    deposit := deposit }

/-- The request that submits bytes and waits for their execution. -/
def submissionRequest (c : NearChain) (bytes : Bytes) : Request :=
  ⟨c.client, .call "broadcast_tx_commit" (some (.array [.string (Bytes.Base64.encode bytes)]))⟩

/-- Reads the id of a transaction that was executed. -/
def submissionAnswer (c : NearChain) (outcome : Outcome) : Except ChainError String :=
  ((c.answer "broadcast_tx_commit" outcomeReading outcome).mapError .notSubmitted).bind
    fun (status, hash) => outcomeId status hash

theorem send_eq (c : NearChain) {receiver : String} {amount : MinorUnits} {units : Nat}
    (fits : deposit amount = .ok units) :
    c.send receiver amount = (do
      let nonce ← inquire c.nonceRequest c.nonceAnswer
      let blockId ← inquire c.blockRequest c.blockAnswer
      inquire
        (c.submissionRequest ((c.transfer receiver units nonce blockId).signed c.signer))
        c.submissionAnswer) := by
  unfold send
  rw [fits]
  change (do let nonce ← c.accessKeyNonce; _ : Attempt ChainError String) = _
  simp only [accessKeyNonce_eq, finalBlockId_eq, call_eq, Network.inquire_adapt]
  congr 1
  funext nonce
  congr 1
  funext blockId
  exact Network.inquire_bind_lift ..

theorem send_of_error (c : NearChain) {receiver : String} {amount : MinorUnits} {e : ChainError}
    (exceeds : deposit amount = .error e) : c.send receiver amount = throw e := by
  unfold send
  rw [exceeds]
  rfl

/-- A transfer that succeeds asked for the nonce and for a block, and submitted the bytes made with
them. -/
theorem send_course (c : NearChain) {receiver : String} {amount : MinorUnits}
    {turns : List Network.Turn} {id : String}
    (course : Dialogue.Course (c.send receiver amount).run turns (.ok id)) :
    ∃ units nonce blockId o₁ o₂ o₃, deposit amount = .ok units ∧
      c.nonceAnswer o₁ = .ok nonce ∧ c.blockAnswer o₂ = .ok blockId ∧
      c.submissionAnswer o₃ = .ok id ∧
      turns = [⟨.exchange c.nonceRequest, o₁⟩, ⟨.exchange c.blockRequest, o₂⟩,
        ⟨.exchange (c.submissionRequest
          ((c.transfer receiver units nonce blockId).signed c.signer)), o₃⟩] := by
  cases fits : deposit amount with
  | error e =>
      rw [c.send_of_error fits] at course
      exact nomatch (Dialogue.course_throw_iff.1 course).2
  | ok units =>
      rw [c.send_eq fits] at course
      simp only [Dialogue.course_bind_iff, Network.course_inquire_iff, reduceCtorEq, false_and,
        exists_false, false_or] at course
      obtain ⟨nonce, _, _, rfl, ⟨o₁, rfl, counted⟩, blockId, _, _, rfl, ⟨o₂, rfl, answered⟩, o₃, rfl,
        named⟩ := course
      exact ⟨units, nonce, blockId, o₁, o₂, o₃, rfl, counted.symm, answered.symm, named.symm, rfl⟩

end TokenFaucet.NearChain
