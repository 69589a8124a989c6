import TokenFaucet.Proofs.Chain.Call
import TokenFaucet.Proofs.Faucet.FailFast
import TokenFaucet.Proofs.Faucet.Transactions

set_option autoImplicit false

namespace TokenFaucet

open Dialogue (Course Follows)
open Network (Exchanged Request submissions)

namespace Json

/-- The value is an object with a member of that name. -/
def HasMember (name : String) (j : Json) : Prop :=
  ∃ members value, j = .object members ∧ (name, value) ∈ members

theorem get?_eq_none_iff {name : String} {j : Json} : j.get? name = none ↔ ¬ j.HasMember name := by
  cases j with
  | object members =>
      simp only [get?, Option.map_eq_none_iff, List.find?_eq_none, HasMember, object.injEq,
        beq_iff_eq, Prod.forall]
      constructor
      · rintro absent ⟨_, value, rfl, mem⟩
        exact absent name value mem rfl
      · rintro absent _ value mem rfl
        exact absent ⟨_, value, rfl, mem⟩
  | _ => simp [get?, HasMember]

end Json

namespace NearChain

/-- The status reports a successful execution. -/
def Executed : Json → Prop :=
  Json.HasMember "SuccessValue"

/-- The status reports a failed execution. -/
def Failed : Json → Prop :=
  Json.HasMember "Failure"

variable {c : NearChain} {outcome : Network.Outcome}

theorem answersSubmission_iff {hash : String} :
    AnswersSubmission outcome hash ↔
      ∃ status, Network.Answers outcomeReading outcome (status, hash) ∧ ¬ Failed status := by
  simp only [AnswersSubmission, Json.get?_eq_none_iff, Failed]

/-- A transfer submits nothing and fails, or submits once and ends with what the outcome is read as. -/
theorem send_submitted {receiver : String} {amount : MinorUnits} {turns : List Network.Turn}
    {r : Except ChainError String} (course : Course (c.send receiver amount).run turns r) :
    (submissions (Network.exchanges turns) = [] ∧ ∃ e, r = .error e) ∨
      ∃ request outcome, submissions (Network.exchanges turns) = [(request, outcome)] ∧
        request.client = c.client ∧ r = c.submissionAnswer outcome := by
  cases fits : deposit amount with
  | error e =>
      rw [c.send_of_error fits] at course
      obtain ⟨rfl, rfl⟩ := Dialogue.course_throw_iff.1 course
      exact .inl ⟨rfl, e, rfl⟩
  | ok units =>
      rw [c.send_eq fits] at course
      obtain ⟨o₁, _, rfl, ⟨e, -, rfl, rfl⟩ | ⟨nonce, -, course⟩⟩ :=
        Network.course_inquire_bind_iff.1 course
      · exact .inl ⟨rfl, e, rfl⟩
      obtain ⟨o₂, _, rfl, ⟨e, -, rfl, rfl⟩ | ⟨blockId, -, course⟩⟩ :=
        Network.course_inquire_bind_iff.1 course
      · exact .inl ⟨rfl, e, rfl⟩
      obtain ⟨o₃, rfl, rfl⟩ := Network.course_inquire_iff.1 course
      exact .inr ⟨_, o₃, rfl, rfl, rfl⟩

end NearChain

namespace Faucet

variable {f : Faucet} {c : NearChain} {userId : String} {t : Transfer} {turns : List Turn}
  {r : Except FaucetError String}

/-- A course that asks the ledger nothing leaves it as it is. -/
theorem desk_of_unasked {w w' : World} (follows : Follows World.answer w turns w')
    (unasked : ledgerTurns turns = []) : w'.desk = w.desk := by
  induction turns generalizing w with
  | nil => rw [Dialogue.follows_nil_iff.1 follows]
  | cons turn rest ih =>
      obtain ⟨q, answer⟩ := turn
      obtain ⟨-, onward⟩ := Dialogue.follows_cons_iff.1 follows
      cases q with
      | ledger q => cases unasked
      | network q =>
          rw [ih onward unasked]
          cases q <;> rfl

/-- The payout is refused as the node's failure, and the ledger is left alone. -/
structure Unbooked (turns : List Turn) (r : Except FaucetError String) : Prop where
  refused : ∃ e, r = .error e ∧ e.category = .remote
  unasked : ledgerTurns turns = []
  unmoved : ∀ w w', Follows World.answer w turns w' → w'.desk = w.desk

/-- The ledger is asked to credit the payout, and its answer decides the result. -/
def Credited (userId : String) (t : Transfer) (c : NearChain) (hash : String) (turns : List Turn)
    (r : Except FaucetError String) : Prop :=
  ∃ amount credited, MinorUnits.parseTransfer t.amount = .ok amount ∧
    Course (Ledger.credit (.ofPayment userId c.profile.id .near none)
      (amount.toHuman c.profile.decimals)) (ledgerTurns turns) credited ∧
    r = (credited.mapError FaucetError.ledger).map fun _ => hash

theorem unbooked_of_chain {why : ChainError} (remote : why.isValidation = false)
    (unasked : ledgerTurns turns = []) : Unbooked turns (.error (.chain why)) where
  refused := ⟨_, rfl, FaucetError.chain_remote_iff.2 remote⟩
  unasked := unasked
  unmoved _ _ follows := desk_of_unasked follows unasked

/-- What an approved payout makes of the outcome of its submission. -/
theorem Concludes.near {asked : List Network.Turn} {asset : Asset} {amount : MinorUnits}
    (approved : Approved f t asked (.near c) asset amount)
    (concludes : Concludes userId t asked (.near c) asset amount turns r) :
    (submissions (exchanges turns) = [] ∧ ledgerTurns turns = [] ∧ ∃ e, r = .error e) ∨
      ∃ request outcome, submissions (exchanges turns) = [(request, outcome)] ∧
        request.client = c.client ∧
        ((∃ why, c.submissionAnswer outcome = .error why ∧ r = .error (.chain why) ∧
          ledgerTurns turns = []) ∨
        ∃ hash, c.submissionAnswer outcome = .ok hash ∧ Credited userId t c hash turns r) := by
  cases concludes with
  | @notSent sending why failed =>
      rw [exchanges_ofNetwork, Network.exchanges_append, Network.submissions_append,
        approved.quiet, ledgerTurns_ofNetwork]
      obtain ⟨none, -⟩ | ⟨request, outcome, once, own, read⟩ := NearChain.send_submitted failed
      · exact .inl ⟨none, rfl, _, rfl⟩
      · exact .inr ⟨request, outcome, once, own, .inl ⟨why, read.symm, rfl, rfl⟩⟩
  | @sent sending hash crediting credited sends credits =>
      rw [exchanges_append, exchanges_ofNetwork, exchanges_ofLedger, List.append_nil,
        Network.exchanges_append, Network.submissions_append, approved.quiet]
      obtain ⟨-, e, failed⟩ | ⟨request, outcome, once, own, read⟩ := NearChain.send_submitted sends
      · cases failed
      · obtain ⟨_, _, _, -, offered, -⟩ := approved.funded
        have native := offered.native_of_cluster nofun
        subst native
        refine .inr ⟨request, outcome, once, own, .inr ⟨hash, read.symm, amount, credited,
          approved.parsed, ?_, rfl⟩⟩
        rw [ledgerTurns_append, ledgerTurns_ofNetwork, ledgerTurns_ofLedger]
        exact credits

/-- A payout on NEAR submits nothing, fails and leaves the ledger alone, or it submits once, and what
the outcome is read as decides whether it is credited. -/
theorem dispatch_near_course (found : f.chains.get? t.kind t.chainId = some (.near c))
    (course : Course (f.dispatch userId t).run turns r) :
    (submissions (exchanges turns) = [] ∧ ledgerTurns turns = [] ∧ ∃ e, r = .error e) ∨
      ∃ request outcome, submissions (exchanges turns) = [(request, outcome)] ∧
        request.client = c.client ∧
        ((∃ why, c.submissionAnswer outcome = .error why ∧ r = .error (.chain why) ∧
          ledgerTurns turns = []) ∨
        ∃ hash, c.submissionAnswer outcome = .ok hash ∧ Credited userId t c hash turns r) := by
  obtain ⟨e, rfl, -, asked, rfl, quiet⟩ | ⟨c', asset, amount, asked, approved, concludes⟩ :=
    dispatch_course course
  · rw [exchanges_ofNetwork, ledgerTurns_ofNetwork]
    exact .inl ⟨quiet, rfl, e, rfl⟩
  · cases approved.found.symm.trans found
    exact concludes.near approved

/-- A submission whose outcome names a transaction with no failure is credited, and any other is not. -/
theorem credited_or_unbooked (found : f.chains.get? t.kind t.chainId = some (.near c))
    (course : Course (f.dispatch userId t).run turns r) {request : Request}
    {outcome : Network.Outcome} (mem : (request, outcome) ∈ submissions (exchanges turns)) :
    (∃ status hash, Network.Answers NearChain.outcomeReading outcome (status, hash) ∧
      ¬ NearChain.Failed status ∧ Credited userId t c hash turns r) ∨
    ((∀ status hash, Network.Answers NearChain.outcomeReading outcome (status, hash) →
      NearChain.Failed status) ∧ Unbooked turns r) := by
  obtain ⟨none, -⟩ | ⟨_, _, once, -, ended⟩ := dispatch_near_course found course
  · rw [none] at mem
    cases mem
  rw [once, List.mem_singleton] at mem
  cases mem
  obtain ⟨why, failed, rfl, unasked⟩ | ⟨hash, named, credited⟩ := ended
  · right
    obtain ⟨fails, remote⟩ := c.reports_submission.error failed
    refine ⟨fun status hash answers => ?_, unbooked_of_chain remote unasked⟩
    by_contra unfailed
    exact NearChain.failsSubmission_iff.1 fails hash
      (NearChain.answersSubmission_iff.2 ⟨status, answers, unfailed⟩)
  · left
    obtain ⟨status, answers, unfailed⟩ :=
      NearChain.answersSubmission_iff.1 (NearChain.submissionAnswer_eq_ok_iff.1 named)
    exact ⟨status, hash, answers, unfailed, credited⟩

theorem Credited.id_eq {hash id : String} (credited : Credited userId t c hash turns (.ok id)) :
    id = hash := by
  obtain ⟨_, outcome, -, -, same⟩ := credited
  cases outcome with
  | error why => cases same
  | ok row => exact Except.ok.inj same

theorem Unbooked.not_booked (unbooked : Unbooked turns r) :
    ¬ ((∃ id, r = .ok id) ∨ ledgerTurns turns ≠ []) := by
  obtain ⟨⟨e, rfl, -⟩, unasked, -⟩ := unbooked
  rintro (⟨_, ⟨⟩⟩ | asked)
  exact asked unasked

/-- Every payout on a cluster of NEAR, whatever the cluster answers. One that succeeds or asks the
ledger for anything was submitted once, and the node answered with a status that reports no failure.
A status that reports none is enough: the payout is then credited under the hash that came with it.
Any other outcome is refused as the node's failure, and the ledger is left alone. Where a status reports
the success or the failure of the execution, only what was executed is therefore credited. -/
theorem dispatch_credits_unfailed (found : f.chains.get? t.kind t.chainId = some (.near c))
    (course : Course (f.dispatch userId t).run turns r) :
    ((∃ id, r = .ok id) ∨ ledgerTurns turns ≠ [] →
      ∃ request outcome status hash, submissions (exchanges turns) = [(request, outcome)] ∧
        request.client = c.client ∧
        Network.Answers NearChain.outcomeReading outcome (status, hash) ∧
        ¬ NearChain.Failed status ∧ ∀ id, r = .ok id → id = hash) ∧
    (∀ request outcome, (request, outcome) ∈ submissions (exchanges turns) →
      (∀ status hash, Network.Answers NearChain.outcomeReading outcome (status, hash) →
        ¬ NearChain.Failed status → Credited userId t c hash turns r) ∧
      ((∀ status hash, Network.Answers NearChain.outcomeReading outcome (status, hash) →
        NearChain.Failed status) → Unbooked turns r)) ∧
    (∀ request outcome status hash, (request, outcome) ∈ submissions (exchanges turns) →
      Network.Answers NearChain.outcomeReading outcome (status, hash) →
      NearChain.Executed status ∨ NearChain.Failed status →
      ((∃ id, r = .ok id) ∨ ledgerTurns turns ≠ [] → NearChain.Executed status) ∧
        (¬ NearChain.Executed status → Unbooked turns r)) := by
  refine ⟨fun booked => ?_, fun request outcome mem => ⟨?_, ?_⟩, ?_⟩
  · obtain ⟨-, unasked, e, rfl⟩ | ⟨request, outcome, once, own, -⟩ := dispatch_near_course found course
    · obtain ⟨_, ⟨⟩⟩ | asked := booked
      exact absurd unasked asked
    have mem : (request, outcome) ∈ submissions (exchanges turns) := by simp [once]
    obtain ⟨status, hash, answers, unfailed, credited⟩ | ⟨-, unbooked⟩ :=
      credited_or_unbooked found course mem
    · refine ⟨request, outcome, status, hash, once, own, answers, unfailed, ?_⟩
      rintro id rfl
      exact credited.id_eq
    · exact absurd booked unbooked.not_booked
  · intro status hash answers unfailed
    obtain ⟨_, _, answers', -, credited⟩ | ⟨failed, -⟩ := credited_or_unbooked found course mem
    · cases answers.unique answers'
      exact credited
    · exact absurd (failed status hash answers) unfailed
  · intro failed
    obtain ⟨status, hash, answers, unfailed, -⟩ | ⟨-, unbooked⟩ :=
      credited_or_unbooked found course mem
    · exact absurd (failed status hash answers) unfailed
    · exact unbooked
  · intro request outcome status hash mem answers decided
    obtain ⟨_, _, answers', unfailed, -⟩ | ⟨-, unbooked⟩ := credited_or_unbooked found course mem
    · cases answers.unique answers'
      have executed := decided.resolve_right unfailed
      exact ⟨fun _ => executed, absurd executed⟩
    · exact ⟨fun booked => absurd booked unbooked.not_booked, fun _ => unbooked⟩

section Example

/-- What a node answers that has accepted a transaction and not begun to execute it. -/
def unstarted : Network.Outcome :=
  .answer 200
    "\x7b\"result\":\x7b\"status\":\"NotStarted\",\"transaction\":\x7b\"hash\":\"H\"\x7d\x7d\x7d"

def unstartedWorld : World where
  outcomes := fun n => (repeatedOutcomes.take 3).getD n unstarted
  exchanged := []
  desk := ⟨.empty, fun _ => ⟨2024, 1, 2, 3, 4, 5, 0⟩⟩

@[irreducible] def unstartedRun : Except FaucetError String × World :=
  (repeatedDispatch "alice").run World.answer unstartedWorld

theorem answers_unstarted :
    Network.Answers NearChain.outcomeReading unstarted (.string "NotStarted", "H") := by
  have read : ((repeatingCluster.answer "" NearChain.outcomeReading unstarted).toOption.map
      fun named => (named.1.string?, named.2)) = some (some "NotStarted", "H") := by decide +kernel
  obtain ⟨⟨status, hash⟩, answered, named⟩ := Option.map_eq_some_iff.1 read
  obtain ⟨text, rfl⟩ := Prod.mk.inj named
  have same : status = .string "NotStarted" := by
    cases status <;> simp_all [Json.string?]
  rw [← same]
  exact NearChain.answer_eq_ok_iff.1 (toOption_eq_some_iff.1 answered)

/-- A node that has accepted a transaction and not executed it: the payout succeeds all the same, and
it is written to the ledger. -/
theorem unstarted_payout_credited : ∃ turns w request status,
    Course (repeatingFaucet.dispatch "alice" repeatedTransfer).run turns (.ok "H") ∧
      Follows World.answer unstartedWorld turns w ∧
      submissions (exchanges turns) = [(request, unstarted)] ∧
      Network.Answers NearChain.outcomeReading unstarted (status, "H") ∧
      ¬ NearChain.Executed status ∧ unstartedWorld.desk.store.rows = [] ∧
      w.desk.store.rows.length = 1 := by
  have paid : unstartedRun.1 = .ok "H" := toOption_eq_some_iff.1 (by decide +kernel)
  have submitted : (submissions unstartedRun.2.exchanged).map (·.2) = [unstarted] := by
    decide +kernel
  have written : unstartedRun.2.desk.store.rows.length = 1 := by decide +kernel
  obtain ⟨turns, course, follows⟩ := Dialogue.course_run World.answer
    (repeatingFaucet.dispatch "alice" repeatedTransfer).run unstartedWorld
  rw [← repeatedDispatch, ← unstartedRun] at follows
  rw [← repeatedDispatch, ← unstartedRun, paid] at course
  rw [exchanged_of_follows follows] at submitted
  obtain ⟨⟨request, outcome⟩, once, rfl⟩ := List.map_eq_singleton_iff.1 submitted
  have unexecuted : ¬ NearChain.Executed (.string "NotStarted") := by
    rintro ⟨_, _, ⟨⟩, -⟩
  exact ⟨turns, _, request, _, course, follows, once, answers_unstarted, unexecuted, rfl, written⟩

theorem executed_repeated {status : Json} {hash : String}
    (answers : Network.Answers NearChain.outcomeReading (repeatedOutcomes.getD 3 .unreachable)
      (status, hash)) : NearChain.Executed status := by
  have read : ((repeatingCluster.answer "" NearChain.outcomeReading
      (repeatedOutcomes.getD 3 .unreachable)).toOption.map
      fun named => (named.1.get? "SuccessValue").isSome) = some true := by decide +kernel
  rw [NearChain.answer_eq_ok_iff.2 answers] at read
  have found : (status.get? "SuccessValue").isSome := Option.some.inj read
  by_contra unexecuted
  rw [Json.get?_eq_none_iff.2 unexecuted] at found
  cases found

/-- A payout that the node reports as executed. -/
theorem dispatch_credits_unfailed_executed : ∃ turns request outcome status,
    repeatingFaucet.chains.get? .near "testnet" = some (.near repeatingCluster) ∧
      Course (repeatingFaucet.dispatch "alice" repeatedTransfer).run turns (.ok "H") ∧
      submissions (exchanges turns) = [(request, outcome)] ∧
      Network.Answers NearChain.outcomeReading outcome (status, "H") ∧
      NearChain.Executed status ∧ ¬ NearChain.Failed status ∧
      Credited "alice" repeatedTransfer repeatingCluster "H" turns (.ok "H") := by
  have submitted : (submissions afterAlice.2.exchanged).map (·.2) =
      [repeatedOutcomes.getD 3 .unreachable] := by decide +kernel
  obtain ⟨turns, course, follows⟩ := Dialogue.course_run World.answer
    (repeatingFaucet.dispatch "alice" repeatedTransfer).run repeatingWorld
  rw [← repeatedDispatch, alice_run] at course follows
  rw [exchanged_of_follows follows] at submitted
  obtain ⟨booked, credits, -⟩ := dispatch_credits_unfailed (c := repeatingCluster) rfl course
  obtain ⟨request, outcome, status, hash, once, -, answers, unfailed, named⟩ := booked (.inl ⟨_, rfl⟩)
  cases named _ rfl
  obtain ⟨credited, -⟩ := credits request outcome (by simp [once])
  replace submitted : (submissions (exchanges turns)).map (·.2) = _ := submitted
  rw [once] at submitted
  cases submitted
  exact ⟨turns, request, _, status, rfl, course, once, answers, executed_repeated answers, unfailed,
    credited status "H" answers unfailed⟩

end Example

end Faucet

end TokenFaucet
