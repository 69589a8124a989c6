import TokenFaucet.Proofs.Chain.Call
import TokenFaucet.Proofs.Evm.Submission
import TokenFaucet.Proofs.Networks.SetUp

set_option autoImplicit false

namespace TokenFaucet

open Network (Exchanged Outcome Request inquire)

namespace EvmChain

variable {c : EvmChain} {outcome : Outcome} {e : ChainError}

/-- The request for the id of the chain that the node serves. -/
def idRequest (c : EvmChain) : Request :=
  ⟨c.client, .call "eth_chainId" none⟩

/-- The outcome shows the node to be one of another chain, which is reported so. -/
inductive Mismatch (c : EvmChain) (outcome : Outcome) : ChainError → Prop where
  | other {reported : Nat} (answers : AnswersQuantity UInt64.size outcome reported)
      (differs : reported ≠ c.chainId.toNat) :
      Mismatch c outcome (.otherChainId c.profile.rpc reported c.chainId.toNat)

/-- Compares the id that a node reports. -/
def compareId (c : EvmChain) (reported : Nat) : Except ChainError Unit :=
  if reported ≠ c.chainId.toNat then
    .error (.otherChainId c.profile.rpc reported c.chainId.toNat)
  else .ok ()

/-- Reads the outcome of the request for the id. -/
def idAnswer (c : EvmChain) (outcome : Outcome) : Except ChainError Unit :=
  (c.rpcAnswer "eth_chainId" (Evm.Reply.quantity UInt64.size) outcome).bind c.compareId

theorem verifyChainId_eq (c : EvmChain) : c.verifyChainId = inquire c.idRequest c.idAnswer := by
  have compared (reported : Nat) : (do
      if reported ≠ c.chainId.toNat then
        throw (.otherChainId c.profile.rpc reported c.chainId.toNat) :
          Network.Attempt ChainError Unit) = liftM (c.compareId reported) := by
    unfold compareId
    split <;> rfl
  rw [verifyChainId, rpc_eq]
  exact (congrArg (inquire _ _ >>= ·) (funext compared)).trans (Network.inquire_bind_lift ..)

theorem Mismatch.category (mismatch : c.Mismatch outcome e) : e.category = .chainId := by
  cases mismatch
  rfl

/-- Of the errors of a check, those of the class of chain ids come from a mismatch. -/
theorem idAnswer_eq_error_iff :
    (c.idAnswer outcome = .error e ∧ e.category = .chainId) ↔ c.Mismatch outcome e := by
  unfold idAnswer compareId
  constructor
  · rintro ⟨refused, category⟩
    obtain failed | ⟨reported, read, refused⟩ := bind_eq_error_iff.1 refused
    · have remote : e.isRemote = true := c.remoteOnly_rpcAnswer _ _ outcome e failed
      rw [ChainError.isRemote, category] at remote
      cases remote
    · split at refused
      · next differs =>
          cases refused
          exact .other (rpcAnswer_eq_ok_iff.1 read) differs
      · cases refused
  · rintro ⟨answers, differs⟩
    exact ⟨bind_eq_error_iff.2 (.inr ⟨_, rpcAnswer_eq_ok_iff.2 answers, if_pos differs⟩), rfl⟩

end EvmChain

/-- The request for the version of the node's software. -/
def SolanaChain.versionRequest (c : SolanaChain) : Request :=
  ⟨c.client, .call "getVersion" (some (.array []))⟩

namespace Networks

open Dialogue (Course)

/-- Nodes that let one exchange after another end as they like, and the exchanges so far. -/
structure Peers where
  outcomes : Nat → Outcome
  asked : List Exchanged

namespace Peers

/-- The nodes after one more exchange. -/
def ask (p : Peers) (request : Request) : Peers :=
  ⟨fun n => p.outcomes (n + 1), p.asked ++ [(request, p.outcomes 0)]⟩

/-- One question to the nodes; what is noted changes nothing. -/
def answer : (q : Query) → Peers → q.Answer × Peers
  | .network (.exchange request), p => (p.outcomes 0, p.ask request)
  | .network (.acquire _), p => ((), p)
  | .network (.release _), p => ((), p)
  | .note _, p => ((), p)

/-- The nodes after one exchange to a request. -/
def askAll (p : Peers) (requests : List Request) : Peers :=
  requests.foldl ask p

theorem askAll_cons (p : Peers) (request : Request) (rest : List Request) :
    p.askAll (request :: rest) = (p.ask request).askAll rest := rfl

theorem askAll_append (p : Peers) (first second : List Request) :
    p.askAll (first ++ second) = (p.askAll first).askAll second :=
  List.foldl_append

end Peers

/-- Requests that were sent in this order, with how their exchanges ended. -/
def exchangesWith (outcomes : Nat → Outcome) (requests : List Request) : List Exchanged :=
  requests.mapIdx fun i request => (request, outcomes i)

theorem Peers.asked_askAll (p : Peers) (requests : List Request) :
    (p.askAll requests).asked = p.asked ++ exchangesWith p.outcomes requests := by
  induction requests generalizing p with
  | nil => exact (List.append_nil _).symm
  | cons request rest ih =>
      rw [askAll_cons, ih, exchangesWith, exchangesWith, List.mapIdx_cons]
      exact List.append_assoc ..

/-- The chain at an index is shown to be another one, which is reported so. -/
def MismatchAt (cs : List EvmChain) (outcomes : Nat → Outcome) (i : Nat) (e : ChainError) : Prop :=
  ∃ c, cs[i]? = some c ∧ c.Mismatch (outcomes i) e

/-- The first chain that is shown to be another one. -/
structure FirstMismatch (cs : List EvmChain) (outcomes : Nat → Outcome) (i : Nat)
    (e : ChainError) : Prop where
  wrong : MismatchAt cs outcomes i e
  first : ∀ j < i, ∀ e', ¬ MismatchAt cs outcomes j e'

variable {c : EvmChain} {rest cs : List EvmChain} {p : Peers} {i : Nat} {e : ChainError}

theorem exists_firstMismatch {outcomes : Nat → Outcome} (wrong : MismatchAt cs outcomes i e) :
    ∃ j e', FirstMismatch cs outcomes j e' := by
  classical
  have some : ∃ j, ∃ e', MismatchAt cs outcomes j e' := ⟨i, e, wrong⟩
  obtain ⟨e', least⟩ := Nat.find_spec some
  exact ⟨Nat.find some, e', least, fun j lower e' wrong => Nat.find_min some lower ⟨e', wrong⟩⟩

theorem verifyEvm_cons (c : EvmChain) (rest : List EvmChain) :
    verifyEvm (c :: rest) = .ask (.network (.exchange c.idRequest)) fun outcome =>
      match c.idAnswer outcome with
      | .ok () => verifyEvm rest
      | .error e =>
        if e.category == .chainId then .done (.error (.chain e))
        else
          .ask (.note (.warn "EVM node unreachable, chain id not verified" (some e.message)))
            fun _ => verifyEvm rest := by
  rw [verifyEvm, EvmChain.verifyChainId_eq]
  rfl

theorem run_verifyEvm_of_mismatch (wrong : c.Mismatch (p.outcomes 0) e) :
    (verifyEvm (c :: rest)).run Peers.answer p = (.error (.chain e), p.ask c.idRequest) := by
  obtain ⟨refused, category⟩ := EvmChain.idAnswer_eq_error_iff.2 wrong
  rw [verifyEvm_cons, Dialogue.run]
  dsimp only [Peers.answer]
  rw [refused]
  dsimp only
  rw [category, if_pos (by decide)]
  rfl

/-- Whatever else a node answers, and if it does not, the check goes on. -/
theorem run_verifyEvm_of_tolerated (none : ∀ e, ¬ c.Mismatch (p.outcomes 0) e) :
    (verifyEvm (c :: rest)).run Peers.answer p =
      (verifyEvm rest).run Peers.answer (p.ask c.idRequest) := by
  rw [verifyEvm_cons, Dialogue.run]
  dsimp only [Peers.answer]
  cases read : c.idAnswer (p.outcomes 0) with
  | ok _ => rfl
  | error e =>
      have tolerated : ¬ (e.category == .chainId) = true := by
        intro same
        exact none e (EvmChain.idAnswer_eq_error_iff.1 ⟨read, eq_of_beq same⟩)
      dsimp only
      rw [if_neg tolerated]
      rfl

theorem run_verifyEvm_of_first (first : FirstMismatch cs p.outcomes i e) :
    (verifyEvm cs).run Peers.answer p =
      (.error (.chain e), p.askAll ((cs.map (·.idRequest)).take (i + 1))) := by
  -- the nodes that are left decide about the chains that are left
  induction cs generalizing p i with
  | nil =>
      obtain ⟨c, found, -⟩ := first.wrong
      cases found
  | cons c rest ih =>
      cases i with
      | zero =>
          obtain ⟨_, found, wrong⟩ := first.wrong
          cases found
          exact run_verifyEvm_of_mismatch wrong
      | succ i =>
          have later : FirstMismatch rest (p.ask c.idRequest).outcomes i e :=
            ⟨first.wrong, fun j lower e' wrong => first.first (j + 1) (by omega) e' wrong⟩
          have own (e' : ChainError) : ¬ c.Mismatch (p.outcomes 0) e' := by
            intro wrong
            exact first.first 0 (by omega) e' ⟨c, rfl, wrong⟩
          rw [run_verifyEvm_of_tolerated own, ih later, List.map_cons, List.take_succ_cons,
            Peers.askAll_cons]

theorem run_verifyEvm_of_none (none : ∀ i e, ¬ MismatchAt cs p.outcomes i e) :
    (verifyEvm cs).run Peers.answer p = (.ok (), p.askAll (cs.map (·.idRequest))) := by
  induction cs generalizing p with
  | nil => rfl
  | cons c rest ih =>
      have own (e : ChainError) : ¬ c.Mismatch (p.outcomes 0) e :=
        fun wrong => none 0 e ⟨c, rfl, wrong⟩
      have later (i : Nat) (e : ChainError) :
          ¬ MismatchAt rest (p.ask c.idRequest).outcomes i e := none (i + 1) e
      rw [run_verifyEvm_of_tolerated own, ih later, List.map_cons, Peers.askAll_cons]

theorem version_eq (c : SolanaChain) :
    ∃ read, c.version = inquire c.versionRequest read := by
  rw [SolanaChain.version, SolanaChain.call_eq]
  exact ⟨_, Network.inquire_bind_pure ..⟩

/-- The node of the cluster is asked once, and its answer decides nothing. -/
theorem run_probeSolana (c : SolanaChain) (p : Peers) :
    (probeSolana c).run Peers.answer p = ((), p.ask c.versionRequest) := by
  obtain ⟨read, version⟩ := version_eq c
  have asked : (ofNetwork c.version.run).run Peers.answer p =
      (read (p.outcomes 0), p.ask c.versionRequest) := by
    rw [version]
    rfl
  change ((ofNetwork c.version.run).andThen _).run Peers.answer p = _
  rw [Dialogue.run_andThen, asked]
  cases read (p.outcomes 0) <;> rfl

/-- The requests of a check, in order: every EVM chain's id, then the version of the cluster's node. -/
def Built.requests (b : Built) : List Request :=
  b.evm.map (·.idRequest) ++ b.solana.toList.map (·.versionRequest)

variable {b : Built}

theorem verify_eq (b : Built) :
    verify b = (verifyEvm b.evm).andThen fun r => match r with
      | .error e => .done (.error e)
      | .ok () =>
        match b.solana with
        | some c => (probeSolana c).andThen fun _ => .done (.ok ())
        | none => .done (.ok ()) := rfl

theorem run_verify_of_first (first : FirstMismatch b.evm p.outcomes i e) :
    (verify b).run Peers.answer p = (.error (.chain e), p.askAll (b.requests.take (i + 1))) := by
  obtain ⟨c, found, -⟩ := first.wrong
  have among : i + 1 ≤ (b.evm.map (·.idRequest)).length := by
    obtain ⟨lower, -⟩ := List.getElem?_eq_some_iff.1 found
    simpa using Nat.succ_le_of_lt lower
  rw [verify_eq, Dialogue.run_andThen, run_verifyEvm_of_first first, Built.requests,
    List.take_append_of_le_length among]
  rfl

theorem run_verify_of_none (none : ∀ i e, ¬ MismatchAt b.evm p.outcomes i e) :
    (verify b).run Peers.answer p = (.ok (), p.askAll b.requests) := by
  rw [verify_eq, Dialogue.run_andThen, run_verifyEvm_of_none none, Built.requests,
    Peers.askAll_append]
  cases b.solana with
  | none => rfl
  | some c =>
      dsimp only
      rw [Dialogue.run_andThen, run_probeSolana]
      rfl

variable {l : Layout} {secrets : Secrets} {limit : Nat} {signers : Signers}

theorem run_load_of_first (read : Signers.ofSecrets l secrets = .ok signers)
    (set : build l signers limit = .ok b) (first : FirstMismatch b.evm p.outcomes i e) :
    (load l secrets limit).run Peers.answer p =
      (.error (.chain e), p.askAll (b.requests.take (i + 1))) := by
  rw [load_eq read set, Dialogue.run_andThen, run_verify_of_first first]
  rfl

theorem run_load_of_none (read : Signers.ofSecrets l secrets = .ok signers)
    (set : build l signers limit = .ok b) (none : ∀ i e, ¬ MismatchAt b.evm p.outcomes i e) :
    (load l secrets limit).run Peers.answer p = (register l signers b, p.askAll b.requests) := by
  rw [load_eq read set, Dialogue.run_andThen, run_verify_of_none none]
  dsimp only
  cases register l signers b <;> rfl

theorem registerTokens_ne_chain {entries : List Layout.TokenEntry} {r : TokenRegistry}
    (why : ChainError) : registerTokens r entries ≠ .error (.chain why) := by
  induction entries generalizing r with
  | nil => nofun
  | cons entry rest ih =>
      intro refused
      obtain refused | ⟨_, -, refused⟩ := bind_eq_error_iff.1 refused
      · obtain ⟨_, -, other⟩ := mapError_eq_error_iff.1 refused
        cases other
      obtain refused | ⟨_, -, refused⟩ := bind_eq_error_iff.1 refused
      · obtain ⟨_, -, other⟩ := mapError_eq_error_iff.1 refused
        cases other
      · exact ih refused

/-- Registering fails for what occurs twice, or for a token, and never for a chain's node. -/
theorem register_ne_chain (why : ChainError) : register l signers b ≠ .error (.chain why) := by
  intro refused
  obtain refused | ⟨_, -, refused⟩ := bind_eq_error_iff.1 refused
  · obtain ⟨_, -, other⟩ := mapError_eq_error_iff.1 refused
    cases other
  obtain refused | ⟨_, -, refused⟩ := bind_eq_error_iff.1 refused
  · exact registerTokens_ne_chain why refused
  · cases refused

/-- What a program does that checks the chains' ids, and then ends otherwise. -/
structure ChecksIds {α : Type} (b : Built) (outcomes : Nat → Outcome)
    (otherwise : Except ConfigError α) (r : Except ConfigError α) (asked : List Exchanged) : Prop where
  fails_iff : (∃ why, r = .error (.chain why) ∧ why.category = .chainId) ↔
    ∃ i why, MismatchAt b.evm outcomes i why
  first : ∀ i why, FirstMismatch b.evm outcomes i why →
    r = .error (.chain why) ∧ asked = exchangesWith outcomes (b.requests.take (i + 1))
  passed : (∀ i why, ¬ MismatchAt b.evm outcomes i why) →
    r = otherwise ∧ asked = exchangesWith outcomes b.requests

theorem checksIds_of_run {α : Type} {program : Session (Except ConfigError α)}
    {otherwise : Except ConfigError α} (other : ∀ why, otherwise ≠ .error (.chain why))
    {outcomes : Nat → Outcome}
    (first : ∀ i why, FirstMismatch b.evm outcomes i why →
      program.run Peers.answer ⟨outcomes, []⟩ =
        (.error (.chain why), Peers.askAll ⟨outcomes, []⟩ (b.requests.take (i + 1))))
    (passed : (∀ i why, ¬ MismatchAt b.evm outcomes i why) →
      program.run Peers.answer ⟨outcomes, []⟩ =
        (otherwise, Peers.askAll ⟨outcomes, []⟩ b.requests)) :
    ChecksIds b outcomes otherwise (program.run Peers.answer ⟨outcomes, []⟩).1
      (program.run Peers.answer ⟨outcomes, []⟩).2.asked := by
  refine ⟨⟨?_, ?_⟩, ?_, ?_⟩
  · rintro ⟨why, failed, -⟩
    by_contra none
    rw [passed fun i why wrong => none ⟨i, why, wrong⟩] at failed
    exact other why failed
  · rintro ⟨i, why, wrong⟩
    obtain ⟨j, why', least⟩ := exists_firstMismatch wrong
    obtain ⟨c, -, mismatch⟩ := least.wrong
    exact ⟨why', by rw [first j why' least], mismatch.category⟩
  · intro i why least
    rw [first i why least, Peers.asked_askAll]
    exact ⟨rfl, rfl⟩
  · intro none
    rw [passed none, Peers.asked_askAll]
    exact ⟨rfl, rfl⟩

/-- Once the signers and the chains of a layout are set up, the check fails if and only if some EVM node
reports a well-formed id that is not the configured one. It names the first such chain of the layout, has
asked each one up to it once, and asks nothing after it. In every other case it succeeds, having asked
every EVM node once, in order, and then the node of the Solana cluster if there is one. Loading fails
in the same way, and otherwise goes on to register what was set up. -/
theorem ids_checked (read : Signers.ofSecrets l secrets = .ok signers)
    (set : build l signers limit = .ok b) (outcomes : Nat → Outcome) :
    b.StandsFor l ∧
      ChecksIds b outcomes (.ok ()) ((verify b).run Peers.answer ⟨outcomes, []⟩).1
        ((verify b).run Peers.answer ⟨outcomes, []⟩).2.asked ∧
      ChecksIds b outcomes (register l signers b)
        ((load l secrets limit).run Peers.answer ⟨outcomes, []⟩).1
        ((load l secrets limit).run Peers.answer ⟨outcomes, []⟩).2.asked := by
  refine ⟨standsFor_of_build read set, ?_, ?_⟩
  · refine checksIds_of_run (by rintro _ ⟨⟩) (fun _ _ first => ?_) fun none => ?_
    · exact run_verify_of_first first
    · exact run_verify_of_none none
  · refine checksIds_of_run register_ne_chain (fun _ _ first => ?_) fun none => ?_
    · exact run_load_of_first read set first
    · exact run_load_of_none read set none

section Example

/-- The first node is down, and any other reports the largest id. -/
def secondNodeAnswers : Nat → Outcome
  | 0 => .unreachable
  | _ => EvmChain.exampleWord

/-- The error for the second chain of the example. -/
def otherId : ChainError :=
  .otherChainId "http://node/" (UInt64.size - 1) 1

theorem firstMismatch_twice (signer : EvmSigner) :
    FirstMismatch [twiceChain signer firstEntry, twiceChain signer secondEntry] secondNodeAnswers 1
      otherId := by
  constructor
  · have differs : UInt64.size - 1 ≠ (1 : UInt64).toNat := by decide
    exact ⟨_, rfl, .other EvmChain.answers_exampleWord differs⟩
  · rintro j lower e ⟨c, found, wrong⟩
    obtain rfl : j = 0 := by omega
    -- a node that is down reports no id
    cases wrong with
    | other answers => cases answers

/-- A chain that is another one is found behind a node that is down. -/
theorem ids_checked_twice : ∃ signers b,
    Signers.ofSecrets twiceLayout twiceSecrets = .ok signers ∧
      build twiceLayout signers 5000 = .ok b ∧
      ((load twiceLayout twiceSecrets 5000).run Peers.answer ⟨secondNodeAnswers, []⟩).1 =
        .error (.chain otherId) ∧
      ((load twiceLayout twiceSecrets 5000).run Peers.answer ⟨secondNodeAnswers, []⟩).2.asked =
        exchangesWith secondNodeAnswers (b.evm.map (·.idRequest)) := by
  obtain ⟨signer, read⟩ := ofSecrets_twice
  obtain ⟨-, -, loaded⟩ := ids_checked read (build_twice signer) secondNodeAnswers
  obtain ⟨failed, asked⟩ := loaded.first 1 otherId (firstMismatch_twice signer)
  exact ⟨_, _, read, build_twice signer, failed, asked⟩

end Example

end Networks

end TokenFaucet
