import TokenFaucet.Proofs.Network.Answers
import TokenFaucet.Proofs.Near.Inquiry

set_option autoImplicit false

attribute [local instance (2000)] instPowNat

namespace TokenFaucet.NearChain

open Network (Outcome)

variable {α : Type} {c : NearChain} {reading : Json.Reading α} {outcome : Outcome}

/-- The outcome shows what was to be viewed: the result is no error in its place. -/
def AnswersView (reading : Json.Reading α) (outcome : Outcome) (a : α) : Prop :=
  ∃ result, Network.Answers Network.anyValue outcome result ∧ result.get? "error" = none ∧
    Json.readValue reading result = .ok a

/-- The outcome names the last final block. -/
def AnswersBlock : Outcome → Bytes → Prop :=
  Network.AnswersHash blockReading

/-- The outcome tells what an account holds. -/
def AnswersAccount (outcome : Outcome) (amount : MinorUnits) : Prop :=
  ∃ text, AnswersView accountReading outcome text ∧ accountAmount text = .ok amount

/-- The outcome names a transaction that was executed. -/
def AnswersSubmission (outcome : Outcome) (hash : String) : Prop :=
  ∃ status, Network.Answers outcomeReading outcome (status, hash) ∧ status.get? "Failure" = none

/-- The outcome shows nothing of what was to be viewed. -/
inductive FailsView (reading : Json.Reading α) (outcome : Outcome) : Prop where
  | call (fails : Network.Fails Network.anyValue outcome)
  /-- A result that carries an error. -/
  | refused {result error : Json} (answers : Network.Answers Network.anyValue outcome result)
      (found : result.get? "error" = some error)
  /-- A result of another shape. -/
  | misshapen {result : Json} {why : Json.Fault}
      (answers : Network.Answers Network.anyValue outcome result)
      (unread : Json.readValue reading result = .error why)

/-- The outcome does not tell what an account holds. -/
inductive FailsAccount (outcome : Outcome) : Prop where
  | view (fails : FailsView accountReading outcome)
  /-- An amount that is no number. -/
  | notNumber {text : String} {why : Number.RadixError}
      (answers : AnswersView accountReading outcome text)
      (unread : Number.Radix.parse (2 ^ MinorUnits.width) 10 text = .error why)

/-- The outcome names no transaction that was executed. -/
inductive FailsSubmission (outcome : Outcome) : Prop where
  | call (fails : Network.Fails outcomeReading outcome)
  /-- A status that carries a failure. -/
  | failed {status failure : Json} {hash : String}
      (answers : Network.Answers outcomeReading outcome (status, hash))
      (found : status.get? "Failure" = some failure)

theorem answer_eq_ok_iff {method : String} {a : α} :
    c.answer method reading outcome = .ok a ↔ Network.Answers reading outcome a := by
  rw [answer, mapError_eq_ok_iff, Network.answer_eq_ok_iff]

theorem viewOf_eq_ok_iff {result : Json} {a : α} :
    viewOf reading result = .ok a ↔
      result.get? "error" = none ∧ Json.readValue reading result = .ok a := by
  rw [viewOf]
  cases result.get? "error" with
  | some error => simp
  | none => simp only [mapError_eq_ok_iff, true_and]

theorem viewAnswer_eq_ok_iff {a : α} :
    c.viewAnswer reading outcome = .ok a ↔ AnswersView reading outcome a := by
  rw [viewAnswer, bind_eq_ok_iff]
  simp only [answer_eq_ok_iff, viewOf_eq_ok_iff, AnswersView]

theorem blockIdOfText_eq_ok_iff {text : String} {blockId : Bytes} :
    blockIdOfText text = .ok blockId ↔
      Bytes.Base58.decode text = .ok blockId ∧ blockId.length = 32 := by
  rw [← Bytes.Base58.decodeExact?_eq_some_iff, blockIdOfText]
  cases Bytes.Base58.decodeExact? 32 text <;> simp

theorem blockAnswer_eq_ok_iff {blockId : Bytes} :
    c.blockAnswer outcome = .ok blockId ↔ AnswersBlock outcome blockId := by
  rw [blockAnswer, bind_eq_ok_iff]
  simp only [answer_eq_ok_iff, blockIdOfText_eq_ok_iff, AnswersBlock, Network.AnswersHash]

theorem balanceAnswer_eq_ok_iff {amount : MinorUnits} :
    c.balanceAnswer outcome = .ok amount ↔ AnswersAccount outcome amount := by
  rw [balanceAnswer, bind_eq_ok_iff]
  simp only [viewAnswer_eq_ok_iff, AnswersAccount]

theorem outcomeId_eq_ok_iff {status : Json} {hash id : String} :
    outcomeId status hash = .ok id ↔ status.get? "Failure" = none ∧ hash = id := by
  rw [outcomeId]
  cases status.get? "Failure" <;> simp

theorem submissionAnswer_eq_ok_iff {id : String} :
    c.submissionAnswer outcome = .ok id ↔ AnswersSubmission outcome id := by
  rw [submissionAnswer, bind_eq_ok_iff]
  simp only [mapError_eq_ok_iff, answer_eq_ok_iff, AnswersSubmission]
  constructor
  · rintro ⟨⟨status, hash⟩, answers, named⟩
    obtain ⟨executed, rfl⟩ := outcomeId_eq_ok_iff.1 named
    exact ⟨status, answers, executed⟩
  · rintro ⟨status, answers, executed⟩
    exact ⟨(status, id), answers, outcomeId_eq_ok_iff.2 ⟨executed, rfl⟩⟩

theorem failsView_iff : FailsView reading outcome ↔ ∀ a, ¬ AnswersView reading outcome a := by
  constructor
  · rintro fails a ⟨result, answers, faultless, read⟩
    cases fails with
    | call fails => exact answers.not_fails fails
    | refused answers' found =>
        cases answers.unique answers'
        exact nomatch faultless.symm.trans found
    | misshapen answers' unread =>
        cases answers.unique answers'
        exact nomatch read.symm.trans unread
  · intro none
    by_cases answered : ∃ result, Network.Answers Network.anyValue outcome result
    · obtain ⟨result, answers⟩ := answered
      cases faultless : result.get? "error" with
      | some error => exact .refused answers faultless
      | none =>
          cases read : Json.readValue reading result with
          | error why => exact .misshapen answers read
          | ok a => exact absurd ⟨result, answers, faultless, read⟩ (none a)
    · exact .call (Network.fails_of_not_answers fun result answers => answered ⟨result, answers⟩)

theorem AnswersView.unique {a b : α} (answers : AnswersView reading outcome a)
    (answers' : AnswersView reading outcome b) : a = b := by
  obtain ⟨result, answered, -, read⟩ := answers
  obtain ⟨result', answered', -, read'⟩ := answers'
  cases answered.unique answered'
  cases read.symm.trans read'
  rfl

theorem exists_accountAmount_iff {text : String} :
    (∃ amount, accountAmount text = .ok amount) ↔
      ∃ n, Number.Radix.parse (2 ^ MinorUnits.width) 10 text = .ok n := by
  simp only [accountAmount, mapError_eq_ok_iff, MinorUnits.ofRadix_eq_ok_iff]
  constructor
  · rintro ⟨amount, read⟩
    exact ⟨amount.toNat, read⟩
  · rintro ⟨n, read⟩
    exact ⟨⟨n, Number.Radix.parse_lt (by decide) read⟩, read⟩

theorem failsAccount_iff : FailsAccount outcome ↔ ∀ amount, ¬ AnswersAccount outcome amount := by
  constructor
  · rintro fails amount ⟨text, answers, read⟩
    cases fails with
    | view fails => exact failsView_iff.1 fails text answers
    | notNumber answers' unread =>
        cases answers.unique answers'
        obtain ⟨n, parsed⟩ := exists_accountAmount_iff.1 ⟨amount, read⟩
        exact nomatch parsed.symm.trans unread
  · intro none
    by_cases answered : ∃ text, AnswersView accountReading outcome text
    · obtain ⟨text, answers⟩ := answered
      cases parsed : Number.Radix.parse (2 ^ MinorUnits.width) 10 text with
      | error why => exact .notNumber answers parsed
      | ok n =>
          obtain ⟨amount, read⟩ := exists_accountAmount_iff.2 ⟨n, parsed⟩
          exact absurd ⟨text, answers, read⟩ (none amount)
    · exact .view (failsView_iff.2 fun text answers => answered ⟨text, answers⟩)

theorem failsSubmission_iff : FailsSubmission outcome ↔ ∀ id, ¬ AnswersSubmission outcome id := by
  constructor
  · rintro fails id ⟨status, answers, executed⟩
    cases fails with
    | call fails => exact answers.not_fails fails
    | failed answers' found =>
        cases answers.unique answers'
        exact nomatch executed.symm.trans found
  · intro none
    by_cases answered : ∃ named, Network.Answers outcomeReading outcome named
    · obtain ⟨⟨status, hash⟩, answers⟩ := answered
      cases executed : status.get? "Failure" with
      | some failure => exact .failed answers executed
      | none => exact absurd ⟨status, answers, executed⟩ (none hash)
    · exact .call (Network.fails_of_not_answers fun named answers => answered ⟨named, answers⟩)

end TokenFaucet.NearChain
