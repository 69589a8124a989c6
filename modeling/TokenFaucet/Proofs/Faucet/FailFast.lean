import TokenFaucet.Proofs.Chain.Plan
import TokenFaucet.Proofs.Faucet.Dispatch
import TokenFaucet.Proofs.Networks.Loaded

set_option autoImplicit false

namespace TokenFaucet

open Dialogue (Course)

/-- The calls of a transfer that goes through. Tokens are paid on EVM chains only, from the account of
the loaded signer. -/
def RemoteCall.plan (signers : Signers) : ChainKind → Option String → List RemoteCall
  | .evm, none => [.evmBalance, .transactionCount, .gasPrice, .gasEstimate, .evmSubmission]
  | .evm, some _ =>
    match signers.evm with
    | some signer =>
      [.tokenSymbol, .tokenBalance signer.address, .transactionCount, .gasPrice, .gasEstimate,
        .evmSubmission]
    | none => []
  | .solana, none => [.solanaBalance, .blockhash, .solanaSubmission]
  | .near, none => [.nearAccount, .accessKey, .block, .nearSubmission]
  | .solana, some _ => []
  | .near, some _ => []

namespace FaucetError

theorem chain_remote_iff {why : ChainError} :
    (chain why).category = .remote ↔ why.isValidation = false := by
  rw [category]
  cases why.isValidation <;> simp

end FaucetError

namespace Faucet

variable {α β : Type} {f : Faucet} {c : Chain} {t : Transfer} {plan plan' : List RemoteCall}

/-- An operation of the faucet makes the calls of a plan in order, and stops at the first that fails. -/
def FailsFast (plan : List RemoteCall) (program : Attempt α) : Prop :=
  KeepsTo Turn.exchange? (·.category = .remote) plan program

theorem failsFast_onChain {program : Network.Attempt ChainError α}
    (fast : Network.FailsFast plan program) : FailsFast plan (onChain program) := by
  intro turns r course
  obtain ⟨asked, outcome, rfl, called, rfl⟩ := course_onChain_iff.1 course
  obtain ⟨made, same, ends⟩ := fast _ _ called
  exact ⟨made, (exchanges_ofNetwork asked).trans same,
    ends.mapError FaucetError.chain_remote_iff⟩

/-- The ledger is no node. -/
theorem failsFast_onLedger (program : Ledger.Session (Except Ledger.Error α)) :
    FailsFast [] (onLedger program) := by
  intro turns r course
  obtain ⟨asked, outcome, rfl, -, rfl⟩ := course_onLedger_iff.1 course
  refine ⟨[], exchanges_ofLedger asked, ?_⟩
  cases outcome with
  | ok a => exact .done rfl (by simp)
  | error why => exact .refused List.nil_prefix (by simp) (by simp [FaucetError.category])

theorem failsFast_recordPayment (userId : String) (c : Chain) (asset : Asset) (amount : MinorUnits) :
    FailsFast [] (recordPayment userId c asset amount) :=
  (failsFast_onLedger _).bind_nil fun _ => keepsTo_pure ()

theorem failsFast_checkFunds {asset : Asset}
    (fast : Network.FailsFast plan (c.balance c.signerAddress asset.token)) (amount : MinorUnits) :
    FailsFast plan (checkFunds c asset amount) := by
  refine (failsFast_onChain fast).bind_nil fun balance => ?_
  split
  · exact keepsTo_throw (by simp [FaucetError.category])
  · exact keepsTo_pure ()

/-- A transfer whose asset is known asks for the funds, and then it is sent and credited. -/
theorem failsFast_payment (userId : String) (c : Chain) (receiver : String) (asset : Asset)
    (amount : MinorUnits) :
    FailsFast (c.fundsCalls asset.token ++ c.sendCalls) (do
      checkFunds c asset amount
      let id ← onChain (c.send receiver amount asset.token)
      recordPayment userId c asset amount
      return id) :=
  (failsFast_checkFunds (c.failsFast_balance _) amount).bind fun _ _ _ =>
    (failsFast_onChain (c.failsFast_send _ _ _)).bind_nil fun id =>
      (failsFast_recordPayment userId c asset amount).bind_nil fun _ => keepsTo_pure id

theorem failsFast_resolveAsset_native (asksNative : t.token = none) :
    FailsFast [] (f.resolveAsset c t) := by
  unfold resolveAsset
  rw [asksNative]
  dsimp only
  split
  · exact keepsTo_throw (by simp [FaucetError.category])
  · exact keepsTo_pure _

theorem failsFast_resolveAsset_token {address : String} (asksToken : t.token = some address)
    (fast : ∀ token, f.tokenOn c address = .ok token →
      Network.FailsFast plan (c.tokenSymbol token.address)) :
    FailsFast plan (f.resolveAsset c t) := by
  unfold resolveAsset
  rw [asksToken]
  refine .check (fun _ refused => by simp [tokenOn_category refused]) fun token offered => ?_
  refine (failsFast_onChain (fast token offered)).bind_nil fun symbol => ?_
  split
  · exact keepsTo_throw (by simp [FaucetError.category])
  · exact keepsTo_pure _

theorem offered_of_resolveAsset {turns : List Turn} {asset : Asset}
    (resolved : Course (f.resolveAsset c t).run turns (.ok asset)) :
    ∃ asked, Offered f c t asked asset := by
  obtain ⟨_, same, -⟩ | ⟨asked, _, -, same, offered⟩ := resolveAsset_course resolved
  · cases same
  · cases same
    exact ⟨asked, offered⟩

/-- The calls for the funds are those of the asset that a transfer names. -/
theorem Offered.fundsCalls_eq {asked : List Network.Turn} {asset : Asset}
    (offered : Offered f c t asked asset) : c.fundsCalls asset.token = c.fundsCalls t.token := by
  cases offered with
  | native asksNative => rw [asksNative]
  | token asksToken _ family =>
      rw [asksToken]
      cases c with
      | evm c => rfl
      | solana c => cases family
      | near c => cases family

/-- A transfer on a chain: the asset first, then its payment. -/
theorem failsFast_assetThenPayment (resolving : FailsFast plan (f.resolveAsset c t)) (userId : String)
    (amount : MinorUnits) :
    FailsFast (plan ++ (c.fundsCalls t.token ++ c.sendCalls)) (do
      let asset ← f.resolveAsset c t
      checkFunds c asset amount
      let id ← onChain (c.send t.receiver amount asset.token)
      recordPayment userId c asset amount
      return id) := by
  refine resolving.bind fun _ asset resolved => ?_
  obtain ⟨_, offered⟩ := offered_of_resolveAsset resolved
  rw [← offered.fundsCalls_eq]
  exact failsFast_payment userId c t.receiver asset amount

/-- Tokens are not offered on clusters. -/
theorem failsFast_tokenOnCluster {address : String} (asksToken : t.token = some address)
    (cluster : c.kind ≠ .evm) (next : Asset → Attempt α) :
    FailsFast [] (f.resolveAsset c t >>= next) := by
  have refused : FailsFast [] (f.resolveAsset c t) :=
    failsFast_resolveAsset_token asksToken fun _ offered =>
      absurd (tokenOn_eq_ok offered).2.1 cluster
  refine refused.bind fun _ asset resolved => ?_
  obtain ⟨_, offered⟩ := offered_of_resolveAsset resolved
  cases offered with
  | native asksNative => exact nomatch asksNative.symm.trans asksToken
  | token _ _ family => exact absurd family cluster

/-- What is asked for a transfer on a chain that has its family's signer. -/
theorem failsFast_onAsset {signers : Signers} (signed : c.SignedBy signers) (userId : String)
    (amount : MinorUnits) :
    FailsFast (RemoteCall.plan signers c.kind t.token) (do
      let asset ← f.resolveAsset c t
      checkFunds c asset amount
      let id ← onChain (c.send t.receiver amount asset.token)
      recordPayment userId c asset amount
      return id) := by
  cases asks : t.token with
  | none =>
      have fast := failsFast_assetThenPayment (failsFast_resolveAsset_native (f := f) (c := c) asks)
        userId amount
      rw [asks] at fast
      cases c <;> exact fast
  | some address =>
      cases c with
      | evm c =>
          have symbol : FailsFast [.tokenSymbol] (f.resolveAsset (.evm c) t) :=
            failsFast_resolveAsset_token asks fun token _ => c.failsFast_tokenSymbol _
          have fast := failsFast_assetThenPayment symbol userId amount
          rw [Chain.SignedBy] at signed
          rw [asks] at fast
          rw [Chain.kind, RemoteCall.plan, signed]
          exact fast
      | solana c => exact failsFast_tokenOnCluster asks (by simp [Chain.kind]) _
      | near c => exact failsFast_tokenOnCluster asks (by simp [Chain.kind]) _

/-- A transfer makes the calls of its plan in order, and stops at the first that fails. -/
theorem failsFast_dispatch {signers : Signers}
    (registered : ∀ {kind id c}, f.chains.get? kind id = some c → c.kind = kind ∧ c.SignedBy signers)
    (userId : String) (t : Transfer) :
    FailsFast (RemoteCall.plan signers t.kind t.token) (f.dispatch userId t) := by
  refine .check (fun _ refused => by simp [badAmount_category refused]) fun amount _ => ?_
  refine .check (fun _ refused => by simp [chainOf_category refused]) fun c found => ?_
  refine .check (fun _ refused => by simp [checkReceiver_category refused]) fun _ _ => ?_
  obtain ⟨family, signed⟩ := registered (chainOf_eq_ok_iff.1 found)
  rw [← family]
  exact failsFast_onAsset signed userId amount

/-- A faucet of loaded networks, whatever the nodes answer: the calls of a transfer come first in the
one sequence that its family and its asset determine, all but the last were answered, and the transfer
is refused as the node's failure if and only if the last one failed. A transfer that succeeds made the
whole sequence. -/
theorem dispatch_fails_fast {l : Layout} {secrets : Secrets} {limit : Nat}
    {loading : List Networks.Turn} {networks : Networks}
    (loaded : Course (Networks.load l secrets limit) loading (.ok networks)) (userId : String)
    (t : Transfer) (w : World) :
    let f : Faucet := ⟨networks.chains, networks.tokens⟩
    let run := (f.dispatch userId t).run.run World.answer w
    let plan := RemoteCall.plan networks.signers t.kind t.token
    ∃ made : List CallMade, run.2.exchanged = w.exchanged ++ made.map CallMade.exchanged ∧
      made.map (·.call) <+: plan ∧ (∀ m ∈ made.dropLast, ¬ m.Failed) ∧
      ((∃ e, run.1 = .error e ∧ e.category = .remote) ↔
        ∃ last, made.getLast? = some last ∧ last.Failed) ∧
      (∀ id, run.1 = .ok id → made.map (·.call) = plan) := by
  intro f run plan
  have fast : FailsFast plan (f.dispatch userId t) :=
    failsFast_dispatch (fun found =>
      have ⟨family, _, signed⟩ := Networks.chain_of_load loaded found
      ⟨family, signed⟩) userId t
  obtain ⟨turns, course, follows⟩ := Dialogue.course_run World.answer (f.dispatch userId t).run w
  obtain ⟨made, same, ends⟩ := fast turns _ course
  refine ⟨made, ?_, ends.part, ends.answered_dropLast, ends.remote_iff, fun id succeeded => ?_⟩
  · rw [exchanged_of_follows follows]
    exact congrArg _ same
  · rw [succeeded] at ends
    exact ends.all_of_ok

section Example

/-- No node can be reached while networks are loaded. -/
def unreachableNodes : (q : Networks.Query) → Unit → q.Answer × Unit
  | .network (.exchange _), _ => (.unreachable, ())
  | .network (.acquire _), _ => ((), ())
  | .network (.release _), _ => ((), ())
  | .note _, _ => ((), ())

/-- A layout with a cluster of NEAR alone. -/
def clusterLayout : Layout where
  evm := .empty
  solana := none
  near := some ⟨"testnet", "near:node", "NEAR", 24, none⟩

def clusterSecrets : Secrets where
  evmKey := none
  solanaKey := none
  nearAccount := some "faucet.testnet"
  nearKey := some "11111111111111111111111111111112"

@[irreducible] def clusterLoaded : Except ConfigError Networks :=
  ((Networks.load clusterLayout clusterSecrets 5000).run unreachableNodes ()).1

/-- A node that tells the signer's funds and then does not answer in time. -/
def lateWorld : World where
  outcomes := fun n =>
    if n = 0 then .answer 200 "\x7b\"result\":\x7b\"amount\":\"900\"\x7d\x7d" else .timedOut
  exchanged := []
  desk := ⟨.empty, fun _ => ⟨2024, 1, 2, 3, 4, 5, 0⟩⟩

def clusterTransfer : Transfer :=
  ⟨.near, "testnet", "carol.testnet", "5", "NEAR", none⟩

def lateRun (networks : Networks) : Except FaucetError String × World :=
  ((Faucet.dispatch ⟨networks.chains, networks.tokens⟩ "alice" clusterTransfer).run).run
    World.answer lateWorld

/-- The first call is answered and the second is not: it is the last, and the node is blamed. -/
theorem dispatch_fails_fast_late : ∃ loading networks,
    Course (Networks.load clusterLayout clusterSecrets 5000) loading (.ok networks) ∧
      ∃ made : List CallMade, (lateRun networks).2.exchanged = made.map CallMade.exchanged ∧
        made.map (·.call) = [.nearAccount, .accessKey] ∧
        ∃ e, (lateRun networks).1 = .error e ∧ e.category = .remote := by
  obtain ⟨loading, course, -⟩ := Dialogue.course_run unreachableNodes
    (Networks.load clusterLayout clusterSecrets 5000) ()
  have outcomes : (clusterLoaded.toOption.map fun networks =>
      (lateRun networks).2.exchanged.map (·.2)) =
        some [.answer 200 "\x7b\"result\":\x7b\"amount\":\"900\"\x7d\x7d", .timedOut] := by
    decide +kernel
  rw [← clusterLoaded] at course
  cases loaded : clusterLoaded with
  | error e =>
      rw [loaded] at outcomes
      cases outcomes
  | ok networks =>
      rw [loaded] at course outcomes
      obtain ⟨made, exchanged, part, -, blamed, -⟩ :=
        dispatch_fails_fast course "alice" clusterTransfer lateWorld
      replace exchanged : (lateRun networks).2.exchanged = made.map CallMade.exchanged := exchanged
      have ended : (lateRun networks).2.exchanged.map (·.2) = [_, .timedOut] :=
        Option.some.inj outcomes
      rw [exchanged, List.map_map] at ended
      have two : made.length = 2 := by simpa using congrArg List.length ended
      obtain ⟨first, second, rfl⟩ := List.length_eq_two.1 two
      have calls : [first.call, second.call] = [.nearAccount, .accessKey] :=
        List.prefix_iff_eq_take.1 part
      have late : second.outcome = .timedOut := (List.cons.inj (List.cons.inj ended).2).1
      have failed : second.Failed := by
        rw [CallMade.Failed, (List.cons.inj (List.cons.inj calls).2).1, late]
        exact .call .timedOut
      exact ⟨loading, networks, course, _, exchanged, calls, blamed.2 ⟨second, rfl, failed⟩⟩

end Example

end Faucet

end TokenFaucet
