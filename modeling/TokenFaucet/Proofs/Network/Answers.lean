import TokenFaucet.Network.Call
import TokenFaucet.Proofs.Bytes.Base58
import TokenFaucet.Proofs.Result

set_option autoImplicit false

namespace TokenFaucet.Network

variable {α : Type} {reading : Json.Reading α} {outcome : Outcome}

/-- The outcome answers a call with that value: a document that reports no error and whose result is
read as the value. -/
inductive Answers (reading : Json.Reading α) : Outcome → α → Prop where
  | result {status : Nat} {body : String} {document result : Json} {a : α}
      (success : Status.isSuccess status) (parsed : Json.parse body = .ok document)
      (faultless : document.get? "error" = none) (found : document.get? "result" = some result)
      (read : Json.readValue reading result = .ok a) :
      Answers reading (.answer status body) a

/-- The outcome answers a call with nothing of use. -/
inductive Fails (reading : Json.Reading α) : Outcome → Prop where
  | unreachable : Fails reading .unreachable
  | timedOut : Fails reading .timedOut
  /-- A status that is no success. -/
  | refused {status : Nat} {body : String} (failure : Status.isSuccess status = false) :
      Fails reading (.answer status body)
  /-- A body that is no document. -/
  | undecodable {status : Nat} {body : String} {why : Json.Fault}
      (malformed : Json.parse body = .error why) : Fails reading (.answer status body)
  /-- A document with an error. -/
  | reported {status : Nat} {body : String} {document error : Json}
      (parsed : Json.parse body = .ok document) (found : document.get? "error" = some error) :
      Fails reading (.answer status body)
  | missing {status : Nat} {body : String} {document : Json}
      (parsed : Json.parse body = .ok document) (absent : document.get? "result" = none) :
      Fails reading (.answer status body)
  /-- A result of another shape. -/
  | misshapen {status : Nat} {body : String} {document result : Json} {why : Json.Fault}
      (parsed : Json.parse body = .ok document) (found : document.get? "result" = some result)
      (unread : Json.readValue reading result = .error why) : Fails reading (.answer status body)

theorem Answers.not_fails {a : α} (answers : Answers reading outcome a) :
    ¬ Fails reading outcome := by
  obtain ⟨success, parsed, faultless, found, read⟩ := answers
  intro fails
  cases fails with
  | refused failure => exact absurd success (by simp [failure])
  | undecodable malformed => exact nomatch parsed.symm.trans malformed
  | reported parsed' found' =>
      cases parsed.symm.trans parsed'
      exact nomatch faultless.symm.trans found'
  | missing parsed' absent =>
      cases parsed.symm.trans parsed'
      exact nomatch found.symm.trans absent
  | misshapen parsed' found' unread =>
      cases parsed.symm.trans parsed'
      cases found.symm.trans found'
      exact nomatch read.symm.trans unread

theorem Answers.unique {a b : α} (answers : Answers reading outcome a)
    (answers' : Answers reading outcome b) : a = b := by
  obtain ⟨-, parsed, -, found, read⟩ := answers
  cases answers' with
  | result _ parsed' _ found' read' =>
      cases parsed.symm.trans parsed'
      cases found.symm.trans found'
      cases read.symm.trans read'
      rfl

theorem fails_of_not_answers (none : ∀ a, ¬ Answers reading outcome a) :
    Fails reading outcome := by
  cases outcome with
  | unreachable => exact .unreachable
  | timedOut => exact .timedOut
  | answer status body =>
      cases success : Status.isSuccess status with
      | false => exact .refused success
      | true =>
          cases parsed : Json.parse body with
          | error why => exact .undecodable parsed
          | ok document =>
              cases faultless : document.get? "error" with
              | some error => exact .reported parsed faultless
              | none =>
                  cases found : document.get? "result" with
                  | none => exact .missing parsed found
                  | some result =>
                      cases read : Json.readValue reading result with
                      | error why => exact .misshapen parsed found read
                      | ok a => exact absurd (.result success parsed faultless found read) (none a)

theorem fails_iff : Fails reading outcome ↔ ∀ a, ¬ Answers reading outcome a :=
  ⟨fun fails _ answers => answers.not_fails fails, fails_of_not_answers⟩

theorem answerBody_eq_ok_iff {url : Url} {document : Json} :
    answerBody url outcome = .ok document ↔ ∃ status body, outcome = .answer status body ∧
      Status.isSuccess status ∧ Json.parse body = .ok document := by
  cases outcome with
  | unreachable => simp [answerBody]
  | timedOut => simp [answerBody]
  | answer status body =>
      rw [answerBody]
      cases success : Status.isSuccess status with
      | false => simp [success]
      | true =>
          rw [if_pos rfl, mapError_eq_ok_iff]
          constructor
          · exact fun parsed => ⟨status, body, rfl, success, parsed⟩
          · rintro ⟨_, _, ⟨⟩, -, parsed⟩
            exact parsed

theorem resultOf_eq_ok_iff {document : Json} {a : α} :
    resultOf reading document = .ok a ↔ document.get? "error" = none ∧
      ∃ result, document.get? "result" = some result ∧ Json.readValue reading result = .ok a := by
  rw [resultOf]
  cases document.get? "error" with
  | some error => simp
  | none => cases document.get? "result" <;> simp [mapError_eq_ok_iff]

/-- What a call makes of an outcome. -/
theorem answer_eq_ok_iff {url : Url} {a : α} :
    (answerBody url outcome).bind (resultOf reading) = .ok a ↔ Answers reading outcome a := by
  simp only [bind_eq_ok_iff, answerBody_eq_ok_iff, resultOf_eq_ok_iff]
  constructor
  · rintro ⟨document, ⟨status, body, rfl, success, parsed⟩, faultless, result, found, read⟩
    exact .result success parsed faultless found read
  · rintro ⟨success, parsed, faultless, found, read⟩
    exact ⟨_, ⟨_, _, rfl, success, parsed⟩, faultless, _, found, read⟩

/-- The outcome answers a call with the text of a hash of 32 bytes. -/
def AnswersHash (reading : Json.Reading String) (outcome : Outcome) (hash : Bytes) : Prop :=
  ∃ text, Answers reading outcome text ∧ Bytes.Base58.decode text = .ok hash ∧ hash.length = 32

/-- The outcome names no hash. -/
inductive FailsHash (reading : Json.Reading String) (outcome : Outcome) : Prop where
  | call (fails : Fails reading outcome)
  | notBase58 {text : String} {why : Bytes.Base58.Error} (answers : Answers reading outcome text)
      (unread : Bytes.Base58.decode text = .error why)
  | otherLength {text : String} {bs : Bytes} (answers : Answers reading outcome text)
      (decoded : Bytes.Base58.decode text = .ok bs) (length : bs.length ≠ 32)

theorem failsHash_iff {reading : Json.Reading String} :
    FailsHash reading outcome ↔ ∀ hash, ¬ AnswersHash reading outcome hash := by
  constructor
  · rintro fails hash ⟨text, answers, decoded, length⟩
    cases fails with
    | call fails => exact answers.not_fails fails
    | notBase58 answers' unread =>
        cases answers.unique answers'
        exact nomatch decoded.symm.trans unread
    | otherLength answers' decoded' other =>
        cases answers.unique answers'
        cases decoded.symm.trans decoded'
        exact other length
  · intro none
    by_cases answered : ∃ text, Answers reading outcome text
    · obtain ⟨text, answers⟩ := answered
      cases decoded : Bytes.Base58.decode text with
      | error why => exact .notBase58 answers decoded
      | ok bs =>
          refine .otherLength answers decoded fun length => ?_
          exact none bs ⟨text, answers, decoded, length⟩
    · exact .call (fails_of_not_answers fun text answers => answered ⟨text, answers⟩)

end TokenFaucet.Network
