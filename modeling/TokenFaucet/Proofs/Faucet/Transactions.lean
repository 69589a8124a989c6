import TokenFaucet.Proofs.Dialogue.Turns
import TokenFaucet.Proofs.Faucet.Dispatch
import TokenFaucet.Proofs.Near.Signed
import TokenFaucet.Proofs.Solana.Signed

set_option autoImplicit false

attribute [local instance (2000)] instPowNat

namespace TokenFaucet

namespace Faucet

open Dialogue (Course Turns turnsOf)
open Network (Exchanged submissions)

/-- What a transaction on a cluster is made of beside the accounts and the key of its signer. -/
inductive Parts where
  | solana (receiver : Bytes) (amount : MinorUnits) (blockhash : Bytes)
  | near (receiver : String) (amount : MinorUnits) (nonce : UInt64) (blockId : Bytes)

/-- A transfer was paid on a cluster by the transaction of those bytes: the last exchanges brought
the answers that it is made of, and submitted it. -/
inductive PaidBy (t : Transfer) : Chain → List Exchanged → Parts → Bytes → Prop where
  | solana {c : SolanaChain} {before : List Exchanged} {amount : MinorUnits}
      {receiver : Solana.Address} {blockhash bytes : Bytes} {o₁ o₂ : Network.Outcome}
      (quiet : submissions before = []) (parsed : MinorUnits.parseTransfer t.amount = .ok amount)
      (account : Solana.Address.parse? t.receiver = some receiver)
      (answered : c.blockhashAnswer o₁ = .ok blockhash) :
      PaidBy t (.solana c)
        (before ++ [(c.blockhashRequest, o₁), (c.submissionRequest bytes, o₂)])
        (.solana receiver.bytes amount blockhash) bytes
  | near {c : NearChain} {before : List Exchanged} {amount : MinorUnits} {nonce : UInt64}
      {blockId bytes : Bytes} {o₁ o₂ o₃ : Network.Outcome}
      (quiet : submissions before = []) (parsed : MinorUnits.parseTransfer t.amount = .ok amount)
      (counted : c.nonceAnswer o₁ = .ok nonce) (answered : c.blockAnswer o₂ = .ok blockId) :
      PaidBy t (.near c)
        (before ++ [(c.nonceRequest, o₁), (c.blockRequest, o₂), (c.submissionRequest bytes, o₃)])
        (.near t.receiver amount nonce blockId) bytes

/-- The payment of a transfer is booked: the ledger was asked last, to credit the user with the
amount of the native currency, and it did. -/
def Booked (userId : String) (t : Transfer) (c : Chain) (turns : List Turn) : Prop :=
  ∃ (amount : MinorUnits) (asked : List Network.Turn)
    (crediting : List (Dialogue.Turn Ledger.Query Ledger.Query.Answer)) (row : Ledger.Record),
    MinorUnits.parseTransfer t.amount = .ok amount ∧
    turns = asked.map Turn.ofNetwork ++ crediting.map Turn.ofLedger ∧
    Course (Ledger.credit (.ofPayment userId c.id c.kind none)
      (amount.toHuman c.profile.decimals)) crediting (.ok row)

/-- The bytes that a transaction of these parts has. -/
inductive Parts.Spells : Chain → Parts → Bytes → Prop where
  | solana {c : SolanaChain} {receiver blockhash : Bytes} {amount : MinorUnits}
      (account : receiver.length = 32) (small : amount.toNat < UInt64.size)
      (block : blockhash.length = 32) :
      Spells (.solana c) (.solana receiver amount blockhash)
        (c.signed (c.transfer receiver (.ofNat amount.toNat) blockhash))
  | near {c : NearChain} {receiver : String} {amount : MinorUnits} {nonce : UInt64} {blockId : Bytes}
      (small : amount.toNat < 2 ^ NearChain.depositBits) (block : blockId.length = 32) :
      Spells (.near c) (.near receiver amount nonce blockId)
        ((c.transfer receiver amount.toNat nonce blockId).signed c.signer)

/-- On one cluster, bytes are the same exactly when all parts are. -/
theorem Parts.Spells.bytes_eq_iff {c : Chain} {parts parts' : Parts} {bytes bytes' : Bytes}
    (spells : parts.Spells c bytes) (spells' : parts'.Spells c bytes') :
    bytes = bytes' ↔ parts = parts' := by
  cases spells with
  | @solana c receiver blockhash amount account small block =>
      cases spells' with
      | @solana _ receiver' blockhash' amount' account' small' block' =>
          rw [c.signed_eq_iff (account.trans account'.symm) (block.trans block'.symm)]
          have amounts : UInt64.ofNat amount.toNat = UInt64.ofNat amount'.toNat ↔ amount = amount' := by
            rw [← MinorUnits.toNat_inj, ← UInt64.toNat_inj, UInt64.toNat_ofNat_of_lt' small,
              UInt64.toNat_ofNat_of_lt' small']
          rw [amounts]
          simp only [Parts.solana.injEq]
  | @near c receiver amount nonce blockId small block =>
      cases spells' with
      | @near _ receiver' amount' nonce' blockId' small' block' =>
          rw [c.signed_eq_iff small small' (block.trans block'.symm)]
          rw [MinorUnits.toNat_inj]
          simp only [Parts.near.injEq]

variable {f : Faucet} {userId : String} {t : Transfer} {c : Chain} {turns : List Turn} {id : String}

theorem Offered.native_of_cluster {asked : List Network.Turn} {asset : Asset}
    (offered : Offered f c t asked asset) (cluster : c.kind ≠ .evm) :
    asset = ⟨none, c.profile.decimals⟩ := by
  cases offered with
  | native => rfl
  | token _ _ family => exact absurd family cluster

/-- A transfer on a cluster that succeeds was paid by one transaction and is booked. -/
theorem paidBy_of_course (course : Course (f.dispatch userId t).run turns (.ok id))
    (found : f.chains.get? t.kind t.chainId = some c) (cluster : c.kind ≠ .evm) :
    ∃ parts bytes, PaidBy t c (exchanges turns) parts bytes ∧ parts.Spells c bytes ∧
      Booked userId t c turns := by
  obtain ⟨c', asset, amount, asked, sending, crediting, row, approved, rfl, sends, credits⟩ :=
    dispatch_ok_course course
  have same : c' = c := Option.some.inj (approved.found.symm.trans found)
  subst same
  obtain ⟨symbolTurns, balanceTurns, balance, -, offered, -, -⟩ := approved.funded
  have native := offered.native_of_cluster cluster
  subst native
  have booked : Booked userId t c' ((asked ++ sending).map Turn.ofNetwork ++
      crediting.map Turn.ofLedger) :=
    ⟨amount, asked ++ sending, crediting, row, approved.parsed, rfl, credits⟩
  have exchanged : exchanges ((asked ++ sending).map Turn.ofNetwork ++
      crediting.map Turn.ofLedger) = Network.exchanges asked ++ Network.exchanges sending := by
    rw [exchanges_append, exchanges_ofNetwork, exchanges_ofLedger, List.append_nil,
      Network.exchanges_append]
  rw [exchanged]
  cases c' with
  | evm c => exact absurd rfl cluster
  | solana c =>
      obtain ⟨receiver, lamports, blockhash, o₁, o₂, input, answered, -, rfl⟩ := c.send_course sends
      obtain ⟨account, named, rfl, rfl, small⟩ := SolanaChain.transferInput_eq_ok input
      exact ⟨_, _, .solana approved.quiet approved.parsed named answered,
        .solana account.length_bytes small (SolanaChain.length_of_blockhashAnswer answered), booked⟩
  | near c =>
      obtain ⟨units, nonce, blockId, o₁, o₂, o₃, fits, counted, answered, -, rfl⟩ :=
        c.send_course sends
      obtain ⟨rfl, small⟩ := NearChain.deposit_eq_ok fits
      exact ⟨_, _, .near approved.quiet approved.parsed counted answered,
        .near small (NearChain.length_of_blockAnswer answered), booked⟩

/-- However transfers on one cluster take turns: of two that succeed both are booked, and they are
paid by the same bytes exactly when they agree on the receiver and on the amount and were answered
the same blockhash, or the same nonce and block. -/
theorem same_transaction_iff {ι σ : Type} [DecidableEq ι] (f : Faucet) (user : ι → String)
    (transfer : ι → Transfer) {allows : (q : Query) → σ → q.Answer → σ → Prop} {s s' : σ}
    {trace : List (ι × Turn)} {programs : ι → Session (Except FaucetError String)}
    (run : Turns allows (fun i => (f.dispatch (user i) (transfer i)).run) s trace programs s')
    {c : Chain} (cluster : c.kind ≠ .evm) {i j : ι} {id id' : String}
    (onCluster : f.chains.get? (transfer i).kind (transfer i).chainId = some c)
    (onCluster' : f.chains.get? (transfer j).kind (transfer j).chainId = some c)
    (ended : programs i = .done (.ok id)) (ended' : programs j = .done (.ok id')) :
    Booked (user i) (transfer i) c (turnsOf i trace) ∧
      Booked (user j) (transfer j) c (turnsOf j trace) ∧
      ∃ parts bytes parts' bytes',
        PaidBy (transfer i) c (exchanges (turnsOf i trace)) parts bytes ∧
        PaidBy (transfer j) c (exchanges (turnsOf j trace)) parts' bytes' ∧
        (bytes = bytes' ↔ parts = parts') := by
  have course := run.leads i
  have course' := run.leads j
  rw [ended] at course
  rw [ended'] at course'
  obtain ⟨parts, bytes, paid, spells, booked⟩ := paidBy_of_course course onCluster cluster
  obtain ⟨parts', bytes', paid', spells', booked'⟩ := paidBy_of_course course' onCluster' cluster
  exact ⟨booked, booked', parts, bytes, parts', bytes', paid, paid', spells.bytes_eq_iff spells'⟩

section Repeating

/-!
A cluster whose node answers every transfer alike, as a node does whose final block and whose view of
the access key have not moved between two requests.
-/

/-- What the outcomes of the exchanges tell of the transaction on NEAR. -/
theorem PaidBy.parts_near {c : NearChain} {exchanged : List Exchanged} {parts : Parts}
    {bytes : Bytes} {amount : MinorUnits} {nonce : UInt64} {blockId : Bytes}
    {o₀ o₁ o₂ o₃ : Network.Outcome} (paid : PaidBy t (.near c) exchanged parts bytes)
    (outcomes : exchanged.map (·.2) = [o₀, o₁, o₂, o₃])
    (parsed : MinorUnits.parseTransfer t.amount = .ok amount)
    (counted : c.nonceAnswer o₁ = .ok nonce) (answered : c.blockAnswer o₂ = .ok blockId) :
    parts = .near t.receiver amount nonce blockId := by
  cases paid with
  | near _ parsed' counted' answered' =>
      rw [List.map_append] at outcomes
      have last := List.append_inj_right' (outcomes.trans (List.singleton_append ..).symm) rfl
      simp only [List.map_cons, List.map_nil, List.cons.injEq, and_true] at last
      obtain ⟨rfl, rfl, rfl⟩ := last
      cases parsed.symm.trans parsed'
      cases counted.symm.trans counted'
      cases answered.symm.trans answered'
      rfl

def repeatingCluster : NearChain where
  profile := ⟨"testnet", "NEAR", "http://near.example", "NEAR", 24⟩
  client :=
    ⟨"near:testnet", ⟨"http", .server "" "" (.domain "near.example") none, "/", none, none⟩, 5000, 1⟩
  signer := ⟨"faucet.testnet", ⟨List.replicate 32 1, rfl⟩⟩

def repeatingFaucet : Faucet :=
  ⟨⟨[((.near, "testnet"), .near repeatingCluster)]⟩, .empty⟩

def repeatedTransfer : Transfer :=
  ⟨.near, "testnet", "carol.testnet", "5", "NEAR", none⟩

/-- The program of a user who asks for the transfer. -/
def repeatedDispatch (user : String) : Session (Except FaucetError String) :=
  (repeatingFaucet.dispatch user repeatedTransfer).run

/-- The answers to a transfer: the signer's funds, its nonce, a block, and the executed transaction. -/
def repeatedOutcomes : List Network.Outcome :=
  [.answer 200 "\x7b\"result\":\x7b\"amount\":\"900\"\x7d\x7d",
    .answer 200 "\x7b\"result\":\x7b\"nonce\":7\x7d\x7d",
    .answer 200 "\x7b\"result\":\x7b\"header\":\x7b\"hash\":\"11111111111111111111111111111111\"\x7d\x7d\x7d",
    .answer 200
      "\x7b\"result\":\x7b\"status\":\x7b\"SuccessValue\":\"\"\x7d,\"transaction\":\x7b\"hash\":\"H\"\x7d\x7d\x7d"]

def repeatingWorld : World where
  outcomes := fun n => repeatedOutcomes.getD (n % 4) .unreachable
  exchanged := []
  desk := ⟨.empty, fun _ => ⟨2024, 1, 2, 3, 4, 5, 0⟩⟩

/-- The first of two users, and what the world is like then. -/
@[irreducible] def afterAlice : Except FaucetError String × World :=
  (repeatedDispatch "alice").run World.answer repeatingWorld

@[irreducible] def afterBob : Except FaucetError String × World :=
  (repeatedDispatch "bob").run World.answer afterAlice.2

theorem alice_run : (repeatedDispatch "alice").run World.answer repeatingWorld =
    (.ok "H", afterAlice.2) := by
  have paid : afterAlice.1 = .ok "H" := toOption_eq_some_iff.1 (by decide +kernel)
  rw [← afterAlice, ← paid]

theorem bob_run : (repeatedDispatch "bob").run World.answer afterAlice.2 =
    (.ok "H", afterBob.2) := by
  have paid : afterBob.1 = .ok "H" := toOption_eq_some_iff.1 (by decide +kernel)
  rw [← afterBob, ← paid]

theorem alice_outcomes : afterAlice.2.exchanged.map (·.2) = repeatedOutcomes := by
  decide +kernel

theorem bob_outcomes :
    afterBob.2.exchanged.map (·.2) = repeatedOutcomes ++ repeatedOutcomes := by
  decide +kernel

/-- The two transfers one after the other, and what each of them was answered. -/
theorem repeating_turns : ∃ trace programs,
    Turns (Dialogue.ofMachine World.answer) repeatedDispatch repeatingWorld trace programs afterBob.2 ∧
      programs "alice" = .done (.ok "H") ∧ programs "bob" = .done (.ok "H") ∧
      (exchanges (turnsOf "alice" trace)).map (·.2) = repeatedOutcomes ∧
      (exchanges (turnsOf "bob" trace)).map (·.2) = repeatedOutcomes := by
  obtain ⟨trace, programs, run, alice, bob, follows, follows'⟩ :=
    Turns.oneAfterAnother (by decide) alice_run bob_run
  refine ⟨trace, programs, run, alice, bob, ?_, ?_⟩
  · have outcomes := alice_outcomes
    rw [exchanged_of_follows follows] at outcomes
    exact outcomes
  · have outcomes := bob_outcomes
    rw [exchanged_of_follows follows', List.map_append, alice_outcomes,
      List.append_cancel_left_eq] at outcomes
    exact outcomes

theorem parsed_repeatedTransfer :
    MinorUnits.parseTransfer repeatedTransfer.amount = .ok ⟨5, by decide⟩ :=
  toOption_eq_some_iff.1 (by decide +kernel)

/-- The transaction that the answers make of the transfer. -/
theorem PaidBy.repeated_parts {exchanged : List Exchanged} {parts : Parts} {bytes : Bytes}
    (paid : PaidBy repeatedTransfer (.near repeatingCluster) exchanged parts bytes)
    (outcomes : exchanged.map (·.2) = repeatedOutcomes) :
    parts = .near "carol.testnet" ⟨5, by decide⟩ 7 (List.replicate 32 0) :=
  paid.parts_near outcomes parsed_repeatedTransfer (toOption_eq_some_iff.1 (by decide +kernel))
    (toOption_eq_some_iff.1 (by decide +kernel))

/-- Two users whose transfers are answered alike: both transfers succeed and both are booked, and
there is one transaction. -/
theorem one_transaction_booked_twice : ∃ (trace : List (String × Turn))
    (programs : String → Session (Except FaucetError String)) (w : World),
    Turns (Dialogue.ofMachine World.answer)
      (fun user => (repeatingFaucet.dispatch user repeatedTransfer).run)
      repeatingWorld trace programs w ∧
    programs "alice" = .done (.ok "H") ∧ programs "bob" = .done (.ok "H") ∧
    Booked "alice" repeatedTransfer (.near repeatingCluster) (turnsOf "alice" trace) ∧
    Booked "bob" repeatedTransfer (.near repeatingCluster) (turnsOf "bob" trace) ∧
    ∃ parts bytes,
      PaidBy repeatedTransfer (.near repeatingCluster) (exchanges (turnsOf "alice" trace)) parts bytes ∧
      PaidBy repeatedTransfer (.near repeatingCluster) (exchanges (turnsOf "bob" trace)) parts
        bytes := by
  obtain ⟨trace, programs, run, alice, bob, aliceOutcomes, bobOutcomes⟩ := repeating_turns
  refine ⟨trace, programs, _, run, alice, bob, ?_⟩
  have course := run.leads "alice"
  have course' := run.leads "bob"
  rw [alice] at course
  rw [bob] at course'
  obtain ⟨parts, bytes, paid, spells, booked⟩ := paidBy_of_course course rfl (by decide)
  obtain ⟨parts', bytes', paid', spells', booked'⟩ := paidBy_of_course course' rfl (by decide)
  have same : parts = parts' :=
    (paid.repeated_parts aliceOutcomes).trans (paid'.repeated_parts bobOutcomes).symm
  have sameBytes := (spells.bytes_eq_iff spells').2 same
  subst same sameBytes
  exact ⟨booked, booked', parts, bytes, paid, paid'⟩

/-- The two transfers as a case of the general statement. -/
theorem same_transaction_iff_repeated : ∃ (trace : List (String × Turn)) (parts parts' : Parts)
    (bytes bytes' : Bytes),
    PaidBy repeatedTransfer (.near repeatingCluster) (exchanges (turnsOf "alice" trace)) parts bytes ∧
    PaidBy repeatedTransfer (.near repeatingCluster) (exchanges (turnsOf "bob" trace)) parts'
      bytes' ∧
    (bytes = bytes' ↔ parts = parts') := by
  obtain ⟨trace, programs, run, alice, bob, -, -⟩ := repeating_turns
  obtain ⟨-, -, parts, bytes, parts', bytes', paid, paid', same⟩ :=
    same_transaction_iff repeatingFaucet id (fun _ => repeatedTransfer) run
      (c := .near repeatingCluster) (by decide) rfl rfl alice bob
  exact ⟨trace, parts, parts', bytes, bytes', paid, paid', same⟩

end Repeating

end Faucet

end TokenFaucet
