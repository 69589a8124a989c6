import TokenFaucet.Proofs.Evm.Inquiry
import TokenFaucet.Proofs.Result

set_option autoImplicit false

attribute [local instance (2000)] instPowNat

namespace TokenFaucet

open Network (Outcome)

namespace Evm

open Reply (Member isId member)

variable {α : Type} {read : Json.Node → Option α} {outcome : Outcome}

/-- The members of the answer in a body: the body is an object, every name in it can be read, and the
number of the answer is one. -/
structure Encloses (body : String) (members : List (Option String × Json.Node)) : Prop where
  complete : (Json.Node.document body).complete = true
  root : ∃ closed, (Json.Node.document body).root = .object members closed
  named : members.any (fun m => m.1.isNone) = false
  numbered : isId (member "id" members) = true

/-- The outcome answers a call with that value: an answer with no error and with one result, which is
read as the value. -/
inductive Answers (read : Json.Node → Option α) : Outcome → α → Prop where
  | result {status : Nat} {body : String} {members : List (Option String × Json.Node)}
      {result : Json.Node} {a : α} (success : Network.Status.isSuccess status)
      (encloses : Encloses body members) (faultless : member "error" members = .absent)
      (found : member "result" members = .present result) (value : read result = some a) :
      Answers read (.answer status body) a

/-- The outcome answers a call with nothing of use. -/
inductive Fails (read : Json.Node → Option α) : Outcome → Prop where
  | unreachable : Fails read .unreachable
  | timedOut : Fails read .timedOut
  /-- A status that is no success. -/
  | refused {status : Nat} {body : String} (failure : Network.Status.isSuccess status = false) :
      Fails read (.answer status body)
  /-- A body that is no answer. -/
  | undecodable {status : Nat} {body : String} (other : ∀ members, ¬ Encloses body members) :
      Fails read (.answer status body)
  /-- An answer with an error. -/
  | reported {status : Nat} {body : String} {members : List (Option String × Json.Node)}
      (encloses : Encloses body members) (faulty : member "error" members ≠ .absent) :
      Fails read (.answer status body)
  /-- An answer without a result, or with several. -/
  | missing {status : Nat} {body : String} {members : List (Option String × Json.Node)}
      (encloses : Encloses body members) (none : ∀ result, member "result" members ≠ .present result) :
      Fails read (.answer status body)
  /-- A result of another shape. -/
  | misshapen {status : Nat} {body : String} {members : List (Option String × Json.Node)}
      {result : Json.Node} (encloses : Encloses body members)
      (found : member "result" members = .present result) (unread : read result = none) :
      Fails read (.answer status body)

theorem Encloses.unique {body : String} {members members' : List (Option String × Json.Node)}
    (encloses : Encloses body members) (encloses' : Encloses body members') : members = members' := by
  obtain ⟨closed, root⟩ := encloses.root
  obtain ⟨closed', root'⟩ := encloses'.root
  cases root.symm.trans root'
  rfl

theorem Answers.not_fails {a : α} (answers : Answers read outcome a) : ¬ Fails read outcome := by
  obtain ⟨success, encloses, faultless, found, value⟩ := answers
  intro fails
  cases fails with
  | refused failure => exact absurd success (by simp [failure])
  | undecodable other => exact other _ encloses
  | reported encloses' faulty =>
      cases encloses.unique encloses'
      exact faulty faultless
  | missing encloses' none =>
      cases encloses.unique encloses'
      exact none _ found
  | misshapen encloses' found' unread =>
      cases encloses.unique encloses'
      cases found.symm.trans found'
      exact nomatch value.symm.trans unread

theorem Answers.unique {a b : α} (answers : Answers read outcome a)
    (answers' : Answers read outcome b) : a = b := by
  obtain ⟨-, encloses, -, found, value⟩ := answers
  cases answers' with
  | result _ encloses' _ found' value' =>
      cases encloses.unique encloses'
      cases found.symm.trans found'
      cases value.symm.trans value'
      rfl

namespace Reply

/-- What the members of a body hold: its one result if there is no error. -/
theorem ofMembers_eq_ok_iff {body : String} {members : List (Option String × Json.Node)}
    {result : Json.Node} :
    ofMembers body members = .ok result ↔
      members.any (fun m => m.1.isNone) = false ∧ isId (member "id" members) = true ∧
        member "error" members = .absent ∧ member "result" members = .present result := by
  constructor
  · intro read
    unfold ofMembers at read
    split at read
    · cases read
    · next named =>
        split at read
        · cases read
        · next numbered =>
            split at read
            · next found faultless =>
                cases read
                exact ⟨Bool.eq_false_iff.2 named, by simpa using numbered, faultless, found⟩
            all_goals cases read
  · rintro ⟨named, numbered, faultless, found⟩
    simp [ofMembers, named, numbered, faultless, found]

theorem ofBody_eq_ok_iff {body : String} {result : Json.Node} :
    ofBody body = .ok result ↔ ∃ members, Encloses body members ∧
      member "error" members = .absent ∧ member "result" members = .present result := by
  constructor
  · intro read
    unfold ofBody at read
    dsimp only at read
    split at read
    · cases read
    · next complete =>
        split at read
        · next members closed root =>
            obtain ⟨named, numbered, faultless, found⟩ := ofMembers_eq_ok_iff.1 read
            exact ⟨members, ⟨by simpa using complete, ⟨closed, root⟩, named, numbered⟩, faultless, found⟩
        all_goals cases read
  · rintro ⟨members, ⟨complete, ⟨closed, root⟩, named, numbered⟩, faultless, found⟩
    unfold ofBody
    simp only [complete, root, Bool.not_true, Bool.false_eq_true, if_false]
    exact ofMembers_eq_ok_iff.2 ⟨named, numbered, faultless, found⟩

theorem ofOutcome_eq_ok_iff {url : Url} {result : Json.Node} :
    ofOutcome url outcome = .ok result ↔ Answers some outcome result := by
  constructor
  · intro read
    cases outcome with
    | unreachable => cases read
    | timedOut => cases read
    | answer status body =>
        rw [ofOutcome] at read
        cases success : Network.Status.isSuccess status with
        | false => simp [success] at read
        | true =>
            rw [if_pos success] at read
            obtain ⟨members, encloses, faultless, found⟩ := ofBody_eq_ok_iff.1 read
            exact .result success encloses faultless found rfl
  · rintro ⟨success, encloses, faultless, found, ⟨⟩⟩
    rw [ofOutcome, if_pos success]
    exact ofBody_eq_ok_iff.2 ⟨_, encloses, faultless, found⟩

end Reply

theorem answers_iff {a : α} :
    Answers read outcome a ↔ ∃ result, Answers some outcome result ∧ read result = some a := by
  constructor
  · rintro ⟨success, encloses, faultless, found, value⟩
    exact ⟨_, .result success encloses faultless found rfl, value⟩
  · rintro ⟨result, ⟨success, encloses, faultless, found, ⟨⟩⟩, value⟩
    exact .result success encloses faultless found value

theorem fails_of_not_answers (none : ∀ a, ¬ Answers read outcome a) : Fails read outcome := by
  cases outcome with
  | unreachable => exact .unreachable
  | timedOut => exact .timedOut
  | answer status body =>
      cases success : Network.Status.isSuccess status with
      | false => exact .refused success
      | true =>
          by_cases enclosing : ∃ members, Encloses body members
          · obtain ⟨members, encloses⟩ := enclosing
            by_cases faultless : member "error" members = .absent
            · cases found : member "result" members with
              | present result =>
                  cases value : read result with
                  | none => exact .misshapen encloses found value
                  | some a => exact absurd (.result success encloses faultless found value) (none a)
              | absent => exact .missing encloses (by simp [found])
              | repeated => exact .missing encloses (by simp [found])
            · exact .reported encloses faultless
          · exact .undecodable fun members encloses => enclosing ⟨members, encloses⟩

theorem fails_iff : Fails read outcome ↔ ∀ a, ¬ Answers read outcome a :=
  ⟨fun fails _ answers => answers.not_fails fails, fails_of_not_answers⟩

end Evm

namespace EvmChain

variable {α : Type} {c : EvmChain} {outcome : Outcome}

/-- What a call that reports its failures in one way or another makes of an outcome. -/
theorem answer_eq_ok_iff {url : Url} {read : Json.Node → Except Evm.Failure α}
    {report : Evm.Failure → ChainError} {a : α} :
    ((Evm.Reply.ofOutcome url outcome).bind read).mapError report = .ok a ↔
      Evm.Answers (fun node => (read node).toOption) outcome a := by
  rw [mapError_eq_ok_iff, bind_eq_ok_iff, Evm.answers_iff]
  simp only [Evm.Reply.ofOutcome_eq_ok_iff, toOption_eq_some_iff]

theorem rpcAnswer_eq_ok_iff {method : String} {read : Json.Node → Except Evm.Failure α} {a : α} :
    c.rpcAnswer method read outcome = .ok a ↔
      Evm.Answers (fun node => (read node).toOption) outcome a :=
  answer_eq_ok_iff

/-- What a token contract returned, if it is of use. -/
def tokenResult? (read : Bytes → Option α) (node : Json.Node) : Option α :=
  (Evm.Reply.bytes node).toOption.bind fun data => if data.isEmpty then none else read data

theorem tokenData_eq_ok_iff {method : Evm.TokenMethod} {read : Bytes → Option α} {data : Bytes}
    {a : α} :
    tokenData method read data = .ok a ↔ (if data.isEmpty then none else read data) = some a := by
  unfold tokenData
  cases data.isEmpty with
  | true => simp
  | false => cases read data <;> simp

theorem tokenAnswer_eq_ok_iff {method : Evm.TokenMethod} {read : Bytes → Option α} {a : α} :
    c.tokenAnswer method read outcome = .ok a ↔ Evm.Answers (tokenResult? read) outcome a := by
  rw [tokenAnswer, bind_eq_ok_iff, Evm.answers_iff]
  simp only [mapError_eq_ok_iff, bind_eq_ok_iff, Evm.Reply.ofOutcome_eq_ok_iff, tokenData_eq_ok_iff,
    tokenResult?, Option.bind_eq_some_iff, toOption_eq_some_iff]
  constructor
  · rintro ⟨data, ⟨result, answers, read⟩, value⟩
    exact ⟨result, answers, data, read, value⟩
  · rintro ⟨result, answers, data, read, value⟩
    exact ⟨data, ⟨result, answers, read⟩, value⟩

end EvmChain

end TokenFaucet
