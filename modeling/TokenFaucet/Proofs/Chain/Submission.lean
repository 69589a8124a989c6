import TokenFaucet.Chain.Basic
import TokenFaucet.Proofs.Evm.Inquiry
import TokenFaucet.Proofs.Near.Inquiry
import TokenFaucet.Proofs.Solana.Inquiry

set_option autoImplicit false

namespace TokenFaucet

open Dialogue (Course)
open Network (Quiet Outcome Turn exchanges submissions)

namespace Chain

def client : Chain → Network.Client
  | evm c => c.client
  | solana c => c.client
  | near c => c.client

/-- The id that the outcome of a submission names. -/
def submittedId : Chain → Outcome → Except ChainError String
  | evm c => c.submissionAnswer
  | solana c => c.submissionAnswer
  | near c => c.submissionAnswer

end Chain

theorem EvmChain.quiet_balance (c : EvmChain) (holder : String) (token : Option String) :
    Quiet (c.balance holder token) := by
  cases readHolder : address holder with
  | error e =>
      rw [c.balance_of_badHolder readHolder]
      exact Network.quiet_throw e
  | ok account =>
      cases token with
      | none =>
          rw [c.balance_native_eq readHolder]
          exact Network.quiet_inquire _ rfl
      | some token =>
          cases readToken : address token with
          | error e =>
              rw [c.balance_of_badToken readHolder readToken]
              exact Network.quiet_throw e
          | ok contract =>
              rw [c.balance_token_eq readHolder readToken]
              exact Network.quiet_inquire _ rfl

theorem EvmChain.quiet_tokenSymbol (c : EvmChain) (token : String) :
    Quiet (c.tokenSymbol token) := by
  cases read : address token with
  | error e =>
      rw [c.tokenSymbol_of_badToken read]
      exact Network.quiet_throw e
  | ok contract =>
      rw [c.tokenSymbol_eq read]
      exact Network.quiet_inquire _ rfl

theorem Chain.quiet_balance (c : Chain) (address : String) (token : Option String) :
    Quiet (c.balance address token) := by
  cases c with
  | evm c => exact c.quiet_balance address token
  | solana c =>
      change Quiet (c.balance address)
      rw [c.balance_eq]
      exact Network.quiet_inquire _ rfl
  | near c =>
      change Quiet (c.balance address)
      rw [c.balance_eq]
      exact Network.quiet_inquire _ rfl

theorem Chain.quiet_tokenSymbol (c : Chain) (token : String) : Quiet (c.tokenSymbol token) := by
  cases c with
  | evm c => exact c.quiet_tokenSymbol token
  | solana c => exact Network.quiet_throw _
  | near c => exact Network.quiet_throw _

/-- A transfer that succeeds submits once, and its result is the id that the node names. -/
def SubmitsOnce (c : Chain) (turns : List Turn) (id : String) : Prop :=
  ∃ request outcome, submissions (exchanges turns) = [(request, outcome)] ∧
    request.client = c.client ∧ c.submittedId outcome = .ok id

theorem EvmChain.submit_submitsOnce (c : EvmChain) {receiver : Evm.Address} {amount : MinorUnits}
    {token : Option Evm.Address} {turns : List Turn} {id : String}
    (course : Course (c.submit receiver amount token).run turns (.ok id)) :
    SubmitsOnce (.evm c) turns id := by
  rw [c.submit_eq] at course
  simp only [Dialogue.course_bind_iff, Network.course_inquire_iff, reduceCtorEq, false_and,
    exists_false, false_or] at course
  obtain ⟨nonce, _, _, rfl, ⟨o₁, rfl, -⟩, price, _, _, rfl, ⟨o₂, rfl, -⟩, estimate, _, _, rfl,
    ⟨o₃, rfl, -⟩, o₄, rfl, named⟩ := course
  exact ⟨_, o₄, rfl, rfl, named.symm⟩

theorem EvmChain.send_submitsOnce (c : EvmChain) {receiver : String} {amount : MinorUnits}
    {token : Option String} {turns : List Turn} {id : String}
    (course : Course (c.send receiver amount token).run turns (.ok id)) :
    SubmitsOnce (.evm c) turns id := by
  cases readReceiver : address receiver with
  | error e =>
      rw [c.send_of_badReceiver amount token readReceiver] at course
      exact nomatch (Dialogue.course_throw_iff.1 course).2
  | ok account =>
      cases readToken : tokenAddress token with
      | error e =>
          rw [c.send_of_badToken amount readReceiver readToken] at course
          exact nomatch (Dialogue.course_throw_iff.1 course).2
      | ok contract =>
          rw [c.send_eq amount readReceiver readToken] at course
          split at course
          · obtain ⟨inner, rfl, submitted⟩ := Network.course_holding_iff.1 course
            have once := c.submit_submitsOnce submitted
            simpa [SubmitsOnce] using once
          · exact c.submit_submitsOnce course

theorem SolanaChain.send_submitsOnce (c : SolanaChain) {address : String} {amount : MinorUnits}
    {turns : List Turn} {id : String} (course : Course (c.send address amount).run turns (.ok id)) :
    SubmitsOnce (.solana c) turns id := by
  obtain ⟨_, _, _, o₁, o₂, -, -, named, rfl⟩ := c.send_course course
  exact ⟨_, o₂, rfl, rfl, named⟩

theorem NearChain.send_submitsOnce (c : NearChain) {receiver : String} {amount : MinorUnits}
    {turns : List Turn} {id : String} (course : Course (c.send receiver amount).run turns (.ok id)) :
    SubmitsOnce (.near c) turns id := by
  obtain ⟨_, _, _, o₁, o₂, o₃, -, -, -, named, rfl⟩ := c.send_course course
  exact ⟨_, o₃, rfl, rfl, named⟩

theorem Chain.send_submitsOnce (c : Chain) {receiver : String} {amount : MinorUnits}
    {token : Option String} {turns : List Turn} {id : String}
    (course : Course (c.send receiver amount token).run turns (.ok id)) :
    SubmitsOnce c turns id := by
  cases c with
  | evm c => exact c.send_submitsOnce course
  | solana c => exact c.send_submitsOnce course
  | near c => exact c.send_submitsOnce course

end TokenFaucet
