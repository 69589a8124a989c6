import TokenFaucet.Proofs.Faucet.Dispatch
import TokenFaucet.Proofs.Faucet.Transactions

set_option autoImplicit false

namespace TokenFaucet.Faucet

open Dialogue (Course Follows)
open Network (submissions)

/-- A payment that both sides know of: the one submission, to the node of its chain, was answered
with that id, and between the two ledgers lies one credit to the user. -/
structure Paid (userId : String) (c : Chain) (asset : Asset) (amount : MinorUnits)
    (exchanged : List Network.Exchanged) (before after : Ledger.Desk) (id : String) : Prop where
  submitted : ∃ request outcome, submissions exchanged = [(request, outcome)] ∧
    request.client = c.client ∧ c.submittedId outcome = .ok id
  credited : ∃ row,
    (Ledger.credit ⟨userId, c.id, c.kind, (asset.token.map Text.lowerCase).getD ""⟩
      (amount.toHuman asset.decimals)).run Ledger.Desk.answer before = (.ok row, after)

variable {f : Faucet} {userId : String} {t : Transfer} {c : Chain} {asset : Asset}
  {amount : MinorUnits} {asked : List Network.Turn} {turns : List Turn} {w w' : World}

/-- The exchanges before an approval come first. -/
theorem Concludes.prefix_exchanges {r : Except FaucetError String}
    (concludes : Concludes userId t asked c asset amount turns r) :
    ∃ later, exchanges turns = Network.exchanges asked ++ later := by
  cases concludes with
  | @notSent sending _ _ =>
      exact ⟨Network.exchanges sending, by rw [exchanges_ofNetwork, Network.exchanges_append]⟩
  | @sent sending _ _ _ _ _ =>
      refine ⟨Network.exchanges sending, ?_⟩
      rw [exchanges_append, exchanges_ofNetwork, exchanges_ofLedger, Network.exchanges_append,
        List.append_nil]

/-- What a transfer that succeeds leaves. -/
theorem paid_of_course {id : String} (course : Course (f.dispatch userId t).run turns (.ok id))
    (follows : Follows World.answer w turns w') :
    ∃ c asset amount asked, Approved f t asked c asset amount ∧
      Paid userId c asset amount (exchanges turns) w.desk w'.desk id := by
  obtain ⟨c, asset, amount, asked, sending, crediting, row, approved, rfl, sends, credits⟩ :=
    dispatch_ok_course course
  obtain ⟨middle, networked, booked⟩ := Dialogue.follows_append_iff.1 follows
  obtain ⟨request, outcome, once, client, named⟩ := c.send_submitsOnce sends
  have unmoved : middle.desk = w.desk := desk_of_follows_network networked
  have run := Dialogue.run_of_course credits (desk_of_follows_ledger booked)
  refine ⟨c, asset, amount, asked, approved, ⟨request, outcome, ?_, client, named⟩, row, ?_⟩
  · rw [exchanges_append, exchanges_ofNetwork, exchanges_ofLedger, List.append_nil,
      Network.exchanges_append, Network.submissions_append, approved.quiet, once]
    rfl
  · rw [← unmoved]
    exact run

/-- An error of the request or of the network leaves the ledger as it was. -/
theorem Concludes.unmoved {e : FaucetError}
    (concludes : Concludes userId t asked c asset amount turns (.error e))
    (follows : Follows World.answer w turns w') (other : e.category ≠ .storage) :
    w'.desk = w.desk := by
  generalize result : (Except.error e : Except FaucetError String) = r at concludes
  cases concludes with
  | notSent => exact desk_of_follows_network follows
  | @sent _ _ _ outcome _ _ =>
      cases outcome with
      | ok row => cases result
      | error why =>
          cases result
          exact absurd rfl other

/-- A transfer that succeeds made one submission, is named by the id that the node answered, and is
one credit in the ledger; one that fails for another reason than the ledger leaves the ledger alone;
and nothing is submitted for a transfer that was not approved by what was asked before. -/
theorem dispatch_pays_and_credits (f : Faucet) (userId : String) (t : Transfer) (w : World) :
    ∃ exchanged, ((f.dispatch userId t).run.run World.answer w).2.exchanged = w.exchanged ++ exchanged ∧
      (∀ id, ((f.dispatch userId t).run.run World.answer w).1 = .ok id →
        ∃ c asset amount asked, Approved f t asked c asset amount ∧
          Paid userId c asset amount exchanged w.desk
            ((f.dispatch userId t).run.run World.answer w).2.desk id) ∧
      (∀ e, ((f.dispatch userId t).run.run World.answer w).1 = .error e → e.category ≠ .storage →
        ((f.dispatch userId t).run.run World.answer w).2.desk = w.desk) ∧
      (submissions exchanged ≠ [] →
        ∃ c asset amount asked, Approved f t asked c asset amount ∧
          ∃ later, exchanged = Network.exchanges asked ++ later) := by
  obtain ⟨turns, course, follows⟩ := Dialogue.course_run World.answer (f.dispatch userId t).run w
  refine ⟨exchanges turns, exchanged_of_follows follows, ?_⟩
  obtain ⟨e, failed, other, asked, rfl, quiet⟩ | ⟨c, asset, amount, asked, approved, concludes⟩ :=
    dispatch_course course
  · refine ⟨?_, ?_, ?_⟩
    · intro id succeeded
      rw [succeeded] at failed
      cases failed
    · intro _ _ _
      exact desk_of_follows_network follows
    · intro submitted
      rw [exchanges_ofNetwork] at submitted
      exact absurd quiet submitted
  · refine ⟨?_, ?_, ?_⟩
    · intro id succeeded
      rw [succeeded] at course
      exact paid_of_course course follows
    · intro e failed other
      rw [failed] at concludes
      exact concludes.unmoved follows other
    · intro _
      exact ⟨c, asset, amount, asked, approved, concludes.prefix_exchanges⟩

/-- A transfer of five units on a cluster that answers all that it is asked: it succeeds, is paid by one
submission, and its user is credited with five units of 24 decimal places. -/
theorem dispatch_pays_and_credits_once : ∃ w',
    (repeatingFaucet.dispatch "alice" repeatedTransfer).run.run World.answer repeatingWorld =
        (.ok "H", w') ∧
      Paid "alice" (.near repeatingCluster) ⟨none, 24⟩ ⟨5, by decide⟩ w'.exchanged
        repeatingWorld.desk w'.desk "H" := by
  have ran : (repeatingFaucet.dispatch "alice" repeatedTransfer).run.run World.answer
      repeatingWorld = (.ok "H", afterAlice.2) := alice_run
  obtain ⟨exchanged, grown, succeeds, -, -⟩ :=
    dispatch_pays_and_credits repeatingFaucet "alice" repeatedTransfer repeatingWorld
  rw [ran] at grown succeeds
  obtain ⟨c, asset, amount, asked, approved, paid⟩ := succeeds "H" rfl
  obtain rfl : Chain.near repeatingCluster = c := Option.some.inj approved.found
  obtain ⟨_, _, _, -, offered, -, -⟩ := approved.funded
  obtain rfl := offered.native_of_cluster nofun
  obtain rfl := Except.ok.inj (parsed_repeatedTransfer.symm.trans approved.parsed)
  obtain rfl : exchanged = afterAlice.2.exchanged := grown.symm
  exact ⟨afterAlice.2, ran, paid⟩

end TokenFaucet.Faucet
