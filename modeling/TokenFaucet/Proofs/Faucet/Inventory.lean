import Mathlib.Data.Prod.Lex
import Mathlib.Data.String.Basic
import TokenFaucet.Faucet.Inventory
import TokenFaucet.Proofs.Chain.Plan
import TokenFaucet.Proofs.Evm.Contract
import TokenFaucet.Proofs.Evm.Submission
import TokenFaucet.Proofs.Faucet.World
import TokenFaucet.Proofs.Registry.Arising

set_option autoImplicit false

namespace TokenFaucet.Faucet

open Api (TokenInfo)
open Dialogue (Course course_bind_iff course_pure_iff)
open Network (Exchanged Outcome)

/-- The places that the inventory goes through, in its order. -/
def places (f : Faucet) : List (Token × Chain) :=
  f.tokens.toList.flatMap f.tokenPlaces

section Places

variable {f : Faucet} {t : Token} {c : Chain}

theorem mem_tokenPlaces {p : Token × Chain} (chains : f.chains.Arises) :
    p ∈ f.tokenPlaces t ↔ p.1 = t ∧ p.2.id ∈ t.chains ∧ f.chains.get? .evm p.2.id = some p.2 := by
  obtain ⟨t', c⟩ := p
  simp only [tokenPlaces, List.mem_map, List.mem_filterMap, Prod.mk.injEq]
  constructor
  · rintro ⟨_, ⟨id, listed, found⟩, rfl, rfl⟩
    obtain rfl := (chains.get found).2
    exact ⟨rfl, listed, found⟩
  · rintro ⟨rfl, listed, found⟩
    exact ⟨c, ⟨_, listed, found⟩, rfl, rfl⟩

theorem mem_places (chains : f.chains.Arises) :
    (t, c) ∈ f.places ↔ t ∈ f.tokens.toList ∧ c.id ∈ t.chains ∧ f.chains.get? .evm c.id = some c := by
  simp only [places, List.mem_flatMap, mem_tokenPlaces chains]
  constructor
  · rintro ⟨t', among, rfl, own⟩
    exact ⟨among, own⟩
  · rintro ⟨among, own⟩
    exact ⟨t, among, rfl, own⟩

/-- The places are the pairs of a token and a chain id that the token lists and that is registered in the
EVM family. -/
theorem mem_places_iff {id : String} (chains : f.chains.Arises) :
    (t, c) ∈ f.places ∧ c.id = id ↔
      t ∈ f.tokens.toList ∧ id ∈ t.chains ∧ f.chains.get? .evm id = some c := by
  constructor
  · rintro ⟨mem, rfl⟩
    exact (mem_places chains).1 mem
  · rintro ⟨among, listed, found⟩
    obtain rfl := (chains.get found).2
    exact ⟨(mem_places chains).2 ⟨among, listed, found⟩, rfl⟩

theorem ascending_tokenPlaces (chains : f.chains.Arises) (listed : t.chains.Pairwise (· < ·)) :
    (f.tokenPlaces t).Pairwise fun p q => p.2.id < q.2.id := by
  rw [tokenPlaces, List.pairwise_map, List.pairwise_filterMap]
  refine listed.imp fun less c found c' found' => ?_
  rwa [(chains.get found).2, (chains.get found').2]

/-- No place comes twice, and the places ascend: by the token's address, then by the chain's id. -/
theorem ascending_places (chains : f.chains.Arises) (tokens : f.tokens.Arises) :
    f.places.Pairwise fun p q =>
      toLex (p.1.address, p.2.id) < toLex (q.1.address, q.2.id) := by
  rw [places, List.pairwise_flatMap]
  refine ⟨fun t mem => ?_, tokens.addresses.imp fun less p mem q mem' => ?_⟩
  · refine (ascending_tokenPlaces chains (tokens.chains mem)).imp_of_mem fun mem mem' less => ?_
    rw [((mem_tokenPlaces chains).1 mem).1, ((mem_tokenPlaces chains).1 mem').1,
      Prod.Lex.toLex_lt_toLex]
    exact .inr ⟨rfl, less⟩
  · rw [((mem_tokenPlaces chains).1 mem).1, ((mem_tokenPlaces chains).1 mem').1,
      Prod.Lex.toLex_lt_toLex]
    exact .inl less

end Places

/-- How a token is asked for on an EVM chain, and what comes of it: the exchanges in order, each with its
outcome, and the result. The second question is for the same contract as the first. The balance is the
first word that the contract returned, converted with the decimal places that the contract returned. -/
inductive Inquiry (t : Token) (c : EvmChain) :
    List Exchanged → Except ChainError TokenInfo → Prop where
  /-- The token's address is none, and nobody is asked. -/
  | unread {e : ChainError}
      (nameless : ∀ contract : Evm.Address, ¬ Bytes.Hex.Spells t.address contract.bytes)
      (refused : EvmChain.address t.address = .error e) :
      Inquiry t c [] (.error e)
  /-- The contract does not tell what the signer holds. -/
  | noBalance {contract : Evm.Address} {o : Outcome} {e : ChainError}
      (named : Bytes.Hex.Spells t.address contract.bytes)
      (untold : ∀ balance, ¬ Evm.ReturnsAmount o balance)
      (failed : c.tokenAnswer (.balanceOf c.signer.address) Evm.ReturnData.amount? o = .error e) :
      Inquiry t c [(c.balanceQuestion contract, o)] (.error e)
  /-- The contract tells what the signer holds, but not its decimal places. -/
  | noDecimals {contract : Evm.Address} {o o' : Outcome} {balance : MinorUnits} {e : ChainError}
      (named : Bytes.Hex.Spells t.address contract.bytes)
      (held : Evm.ReturnsAmount o balance) (untold : ∀ decimals, ¬ Evm.ReturnsByte o' decimals)
      (failed : c.tokenAnswer .decimals Evm.ReturnData.uint8? o' = .error e) :
      Inquiry t c [(c.balanceQuestion contract, o), (c.decimalsQuestion contract, o')] (.error e)
  | told {contract : Evm.Address} {o o' : Outcome} {balance : MinorUnits} {decimals : UInt8}
      (named : Bytes.Hex.Spells t.address contract.bytes)
      (held : Evm.ReturnsAmount o balance) (scaled : Evm.ReturnsByte o' decimals) :
      Inquiry t c [(c.balanceQuestion contract, o), (c.decimalsQuestion contract, o')]
        (.ok ⟨t.address, t.standard, t.name, t.symbol, c.profile.id, .evm, decimals,
          balance.toHuman decimals⟩)

section Inquiry

variable {t : Token} {c : EvmChain} {calls : List Exchanged}

/-- What is told of a place was asked for there. -/
theorem Inquiry.answered {info : TokenInfo} (inquiry : Inquiry t c calls (.ok info)) :
    ∃ call ∈ calls, ∃ call' ∈ calls, ∃ balance, Evm.ReturnsAmount call.2 balance ∧
      Evm.ReturnsByte call'.2 info.decimals ∧ info.balance = balance.toHuman info.decimals := by
  cases inquiry with
  | told named held scaled =>
      exact ⟨_, List.mem_cons_self .., _, List.mem_cons_of_mem _ (List.mem_singleton_self _), _, held,
        scaled, rfl⟩

/-- An inquiry at an address that can be read fails by a call only. -/
theorem Inquiry.unanswered {contract : Evm.Address} {e : ChainError}
    (named : Bytes.Hex.Spells t.address contract.bytes) (inquiry : Inquiry t c calls (.error e)) :
    ∃ call ∈ calls,
      (∀ balance, ¬ Evm.ReturnsAmount call.2 balance) ∨
      ∀ decimals, ¬ Evm.ReturnsByte call.2 decimals := by
  cases inquiry with
  | unread nameless _ => exact absurd named (nameless contract)
  | noBalance _ untold _ => exact ⟨_, List.mem_singleton_self _, .inl untold⟩
  | noDecimals _ _ untold _ =>
      exact ⟨_, List.mem_cons_of_mem _ (List.mem_singleton_self _), .inr untold⟩

end Inquiry

/-- A token and a chain with what was asked there and told. -/
structure Inquired where
  token : Token
  chain : EvmChain
  calls : List Exchanged
  info : TokenInfo
  told : Inquiry token chain calls (.ok info)

def Inquired.place (q : Inquired) : Token × Chain :=
  (q.token, .evm q.chain)

theorem Inquired.named (q : Inquired) :
    (q.info.address, q.info.chainId) = (q.place.1.address, q.place.2.id) := by
  obtain ⟨t, c, calls, info, told⟩ := q
  cases told
  rfl

/-- What is asked in going through places, and what is told in the end: an entry for every place, or the
error of one place after entries for all before it. -/
inductive Enumerated (places : List (Token × Chain)) (calls : List Exchanged) :
    Except FaucetError (List TokenInfo) → Prop where
  | all (inquired : List Inquired) (places_eq : places = inquired.map (·.place))
      (calls_eq : calls = inquired.flatMap (·.calls)) :
      Enumerated places calls (.ok (inquired.map (·.info)))
  | stopped (inquired : List Inquired) {t : Token} {c : EvmChain} {last : List Exchanged}
      {e : ChainError} (after : List (Token × Chain))
      (places_eq : places = inquired.map (·.place) ++ (t, .evm c) :: after)
      (failed : Inquiry t c last (.error e))
      (calls_eq : calls = inquired.flatMap (·.calls) ++ last) :
      Enumerated places calls (.error (.chain e))

section Enumerated

variable {places : List (Token × Chain)} {calls : List Exchanged}
  {told : Except FaucetError (List TokenInfo)}

/-- One more place in front, of which an entry is told. -/
theorem Enumerated.cons (q : Inquired) (enumerated : Enumerated places calls told) :
    Enumerated (q.place :: places) (q.calls ++ calls) (told.map (q.info :: ·)) := by
  cases enumerated with
  | all inquired places_eq calls_eq =>
      refine .all (q :: inquired) ?_ ?_
      · rw [places_eq, List.map_cons]
      · rw [calls_eq, List.flatMap_cons]
  | stopped inquired after places_eq failed calls_eq =>
      refine .stopped (q :: inquired) after ?_ failed ?_
      · rw [places_eq, List.map_cons, List.cons_append]
      · rw [calls_eq, List.flatMap_cons, List.append_assoc]

theorem Enumerated.answered {infos : List TokenInfo} (enumerated : Enumerated places calls (.ok infos)) :
    ∀ i ∈ infos, ∃ call ∈ calls, ∃ call' ∈ calls, ∃ balance, Evm.ReturnsAmount call.2 balance ∧
      Evm.ReturnsByte call'.2 i.decimals ∧ i.balance = balance.toHuman i.decimals := by
  cases enumerated with
  | all inquired _ calls_eq =>
      intro i mem
      obtain ⟨q, among, rfl⟩ := List.mem_map.1 mem
      obtain ⟨call, asked, call', asked', told⟩ := q.told.answered
      exact ⟨call, calls_eq ▸ List.mem_flatMap.2 ⟨q, among, asked⟩, call',
        calls_eq ▸ List.mem_flatMap.2 ⟨q, among, asked'⟩, told⟩

/-- Where every address can be read and every call is answered, every place is told of. -/
theorem Enumerated.ok_of_answered
    (named : ∀ p ∈ places, ∃ contract : Evm.Address, Bytes.Hex.Spells p.1.address contract.bytes)
    (answered : ∀ call ∈ calls,
      (∃ balance, Evm.ReturnsAmount call.2 balance) ∧ ∃ decimals, Evm.ReturnsByte call.2 decimals)
    (enumerated : Enumerated places calls told) : ∃ infos, told = .ok infos := by
  cases enumerated with
  | all inquired _ _ => exact ⟨_, rfl⟩
  | @stopped inquired t c last _ after places_eq failed calls_eq =>
      obtain ⟨contract, own⟩ := named (t, .evm c) (by simp [places_eq])
      obtain ⟨call, asked, unanswered⟩ := failed.unanswered own
      obtain ⟨⟨balance, held⟩, decimals, scaled⟩ :=
        answered call (calls_eq ▸ List.mem_append_right _ asked)
      obtain none | none := unanswered
      · exact absurd held (none _)
      · exact absurd scaled (none _)

/-- Where every address can be read and nobody tells what the signer holds, one question is asked. -/
theorem Enumerated.error_of_silent (nonempty : places ≠ [])
    (named : ∀ p ∈ places, ∃ contract : Evm.Address, Bytes.Hex.Spells p.1.address contract.bytes)
    (silent : ∀ call ∈ calls, ∀ balance, ¬ Evm.ReturnsAmount call.2 balance)
    (enumerated : Enumerated places calls told) :
    ∃ why, told = .error (.chain why) ∧ calls.length = 1 := by
  have untold (inquired : List Inquired) (within : ∀ q ∈ inquired, ∀ call ∈ q.calls, call ∈ calls) :
      inquired = [] := by
    refine List.eq_nil_iff_forall_not_mem.2 fun q mem => ?_
    obtain ⟨call, asked, -, -, balance, held, -⟩ := q.told.answered
    exact silent call (within q mem call asked) balance held
  cases enumerated with
  | all inquired places_eq calls_eq =>
      obtain rfl := untold inquired fun q mem call asked =>
        calls_eq ▸ List.mem_flatMap.2 ⟨q, mem, asked⟩
      exact absurd places_eq nonempty
  | @stopped inquired t c last why after places_eq failed calls_eq =>
      obtain rfl := untold inquired fun q mem call asked =>
        calls_eq ▸ List.mem_append_left _ (List.mem_flatMap.2 ⟨q, mem, asked⟩)
      obtain rfl : calls = last := calls_eq
      refine ⟨why, rfl, ?_⟩
      obtain ⟨contract, own⟩ := named (t, .evm c) (by simp [places_eq])
      cases failed with
      | unread nameless _ => exact absurd own (nameless contract)
      | noBalance _ _ _ => rfl
      | noDecimals _ held _ _ => exact absurd held (silent _ (List.mem_cons_self ..) _)

end Enumerated

section Courses

variable {t : Token} {c : EvmChain} {turns : List Turn}

/-- One place is one inquiry. -/
theorem course_tokenInfo {r : Except FaucetError TokenInfo}
    (course : Course (tokenInfo t (.evm c)).run turns r) :
    ∃ asked result, turns = asked.map Turn.ofNetwork ∧
      Inquiry t c (Network.exchanges asked) result ∧ r = result.mapError .chain := by
  have signer := c.address_signer
  unfold tokenInfo at course
  simp only [Chain.balance, Chain.signerAddress, Chain.tokenDecimals] at course
  cases read : EvmChain.address t.address with
  | error e =>
      rw [c.balance_of_badToken signer read] at course
      obtain ⟨rfl, rfl⟩ := Dialogue.course_throw_iff.1 course
      refine ⟨[], .error e, rfl, .unread (fun contract spells => ?_) read, rfl⟩
      cases read.symm.trans (EvmChain.address_ok_iff_spells.2 spells)
  | ok contract =>
      rw [c.balance_token_eq signer read, c.tokenDecimals_eq read, c.tokenRequest_balanceOf,
        c.tokenRequest_decimals] at course
      have named := EvmChain.address_ok_iff_spells.1 read
      obtain ⟨o, _, rfl, ⟨e, failed, rfl, rfl⟩ | ⟨balance, held, course⟩⟩ :=
        course_onChain_inquire_bind_iff.1 course
      · refine ⟨[_], .error e, rfl, .noBalance named (fun balance held => ?_) failed, rfl⟩
        cases failed.symm.trans (EvmChain.tokenAnswer_amount_iff.2 held)
      have held := EvmChain.tokenAnswer_amount_iff.1 held
      obtain ⟨o', _, rfl, ⟨e, failed, rfl, rfl⟩ | ⟨decimals, scaled, course⟩⟩ :=
        course_onChain_inquire_bind_iff.1 course
      · refine ⟨[_, _], .error e, rfl, .noDecimals named held (fun decimals scaled => ?_) failed, rfl⟩
        cases failed.symm.trans (EvmChain.tokenAnswer_uint8_iff.2 scaled)
      obtain ⟨rfl, rfl⟩ := course_pure_iff.1 course
      have scaled := EvmChain.tokenAnswer_uint8_iff.1 scaled
      exact ⟨[_, _], .ok _, rfl, .told named held scaled, rfl⟩

/-- Place after place: the inquiries up to the first that fails. -/
theorem course_tokenInfos {places : List (Token × Chain)}
    (evm : ∀ p ∈ places, ∃ c, p.2 = .evm c) {r : Except FaucetError (List TokenInfo)}
    (course : Course (tokenInfos places).run turns r) :
    ∃ asked, turns = asked.map Turn.ofNetwork ∧
      Enumerated places (Network.exchanges asked) r := by
  induction places generalizing turns r with
  | nil =>
      obtain ⟨rfl, rfl⟩ := course_pure_iff.1 course
      exact ⟨[], rfl, .all [] rfl rfl⟩
  | cons p rest ih =>
      obtain ⟨t, c⟩ := p
      obtain ⟨⟨c, rfl⟩, others⟩ := List.forall_mem_cons.1 evm
      obtain ⟨_, rfl, stopped⟩ | ⟨info, _, _, rfl, first, further⟩ := course_bind_iff.1 course
      · obtain ⟨asked, result, rfl, inquiry, failed⟩ := course_tokenInfo stopped
        obtain ⟨e, rfl, rfl⟩ := mapError_eq_error_iff.1 failed.symm
        exact ⟨asked, rfl, .stopped [] rest rfl inquiry rfl⟩
      obtain ⟨asked, result, rfl, inquiry, told⟩ := course_tokenInfo first
      obtain rfl := mapError_eq_ok_iff.1 told.symm
      let q : Inquired := ⟨t, c, _, info, inquiry⟩
      obtain ⟨_, rfl, stopped⟩ | ⟨infos, _, _, rfl, onward, ended⟩ := course_bind_iff.1 further
      · obtain ⟨asked', rfl, enumerated⟩ := ih others stopped
        refine ⟨asked ++ asked', by rw [List.map_append], ?_⟩
        rw [Network.exchanges_append]
        exact enumerated.cons q
      · obtain ⟨rfl, rfl⟩ := course_pure_iff.1 ended
        obtain ⟨asked', rfl, enumerated⟩ := ih others onward
        refine ⟨asked ++ asked', by rw [List.map_append, List.append_nil], ?_⟩
        rw [Network.exchanges_append]
        exact enumerated.cons q

end Courses

/-- The inventory of registries that registrations led to, in any world. Its places are the pairs of a
registered token and a chain id that the token lists and that is registered in the EVM family; they ascend
by the token's address and the chain's id, so none comes twice. The exchanges are those of the inquiries at
the places, one after another, with the outcomes that the world has in store. If all inquiries succeed, an
entry is told for each place, in the same order; otherwise the first that fails is the last, and its error
is told. A token whose address is none fails so without an exchange. The ledger is not asked. -/
theorem tokenList_complete (f : Faucet) (chains : f.chains.Arises) (tokens : f.tokens.Arises)
    (w : World) :
    (∀ t c id, (t, c) ∈ f.places ∧ c.id = id ↔
      t ∈ f.tokens.toList ∧ id ∈ t.chains ∧ f.chains.get? .evm id = some c) ∧
    (f.places.Pairwise fun p q =>
      toLex (p.1.address, p.2.id) < toLex (q.1.address, q.2.id)) ∧
    ∃ calls told w', f.tokenList.run.run World.answer w = (told, w') ∧
      w'.exchanged = w.exchanged ++ calls ∧
      calls.map (·.2) = (List.range calls.length).map w.outcomes ∧
      w'.desk = w.desk ∧
      Enumerated f.places calls told ∧
      ∀ infos, told = .ok infos →
        infos.map (fun i => (i.address, i.chainId)) =
          f.places.map fun p => (p.1.address, p.2.id) := by
  refine ⟨fun t c id => mem_places_iff chains, ascending_places chains tokens, ?_⟩
  have evm : ∀ p ∈ f.places, ∃ c, p.2 = .evm c := by
    rintro ⟨t, c⟩ mem
    have kind := (chains.get ((mem_places chains).1 mem).2.2).1
    cases c with
    | evm c => exact ⟨c, rfl⟩
    | solana c => cases kind
    | near c => cases kind
  obtain ⟨turns, course, follows⟩ := Dialogue.course_run World.answer f.tokenList.run w
  obtain ⟨asked, rfl, enumerated⟩ := course_tokenInfos evm course
  have exchanged := exchanged_of_follows follows
  have outcomes := outcomes_of_follows follows
  rw [exchanges_ofNetwork] at exchanged outcomes
  refine ⟨_, _, _, rfl, exchanged, outcomes, desk_of_follows_network follows, enumerated, ?_⟩
  intro infos told
  rw [told] at enumerated
  cases enumerated with
  | all inquired places_eq _ =>
      rw [places_eq, List.map_map, List.map_map]
      exact List.map_congr_left fun q _ => q.named

section Example

open EvmChain (exampleChain)

def sideCluster : SolanaChain where
  profile := ⟨"devnet", "Solana", "http://sol.example", "SOL", 9⟩
  client :=
    ⟨"solana:devnet", ⟨"http", .server "" "" (.domain "sol.example") none, "/", none, none⟩, 5000, 1⟩
  signer := ⟨⟨List.replicate 32 9, rfl⟩⟩

/-- A token that also lists a chain of another family, and one that nobody has registered. -/
def coin : Token where
  address := EvmChain.exampleToken
  symbol := "USDC"
  name := "USD Coin"
  standard := .erc20
  decimals := 18
  chains := ["18446744073709551615", "devnet", "unknown"]

def olderCoin : Token :=
  { coin with address := "0x1fbdb2315678afecb367f032d93f642f64180aa3" }

def stockedFaucet : Faucet where
  chains := ⟨[((.evm, "18446744073709551615"), .evm exampleChain),
    ((.solana, "devnet"), .solana sideCluster)]⟩
  tokens := ⟨[(olderCoin.address, olderCoin), (coin.address, coin)]⟩

theorem arises_stockedChains : stockedFaucet.chains.Arises :=
  .insert (c := .solana sideCluster) (.insert (c := .evm exampleChain) .empty rfl) rfl

theorem arises_stockedTokens : stockedFaucet.tokens.Arises :=
  .insert (t := olderCoin) (.insert (t := coin) .empty (by decide +kernel) rfl) (by decide +kernel) rfl

theorem places_stockedFaucet :
    stockedFaucet.places = [(olderCoin, .evm exampleChain), (coin, .evm exampleChain)] := rfl

/-- A word that is 2050, and whose last byte is two. -/
def wordOutcome : Outcome :=
  .answer 200
    "\x7b\"id\":0,\"result\":\"0x0000000000000000000000000000000000000000000000000000000000000802\"\x7d"

/-- What the word is read as, and what so many units are with two decimal places. -/
theorem returns_wordOutcome :
    Evm.ReturnsAmount wordOutcome ⟨2050, by decide⟩ ∧ Evm.ReturnsByte wordOutcome 2 ∧
      MinorUnits.toHuman ⟨2050, by decide⟩ 2 = ⟨0x4034800000000000⟩ := by
  have read : (exampleChain.tokenAnswer .decimals Evm.ReturnData.amount? wordOutcome).toOption =
        some ⟨2050, by decide⟩ ∧
      (exampleChain.tokenAnswer .decimals Evm.ReturnData.uint8? wordOutcome).toOption = some 2 ∧
      MinorUnits.toHuman ⟨2050, by decide⟩ 2 = ⟨0x4034800000000000⟩ := by decide +kernel
  obtain ⟨held, scaled, value⟩ := read
  exact ⟨EvmChain.tokenAnswer_amount_iff.1 (toOption_eq_some_iff.1 held),
    EvmChain.tokenAnswer_uint8_iff.1 (toOption_eq_some_iff.1 scaled), value⟩

theorem named_stockedFaucet :
    ∀ p ∈ stockedFaucet.places,
      ∃ contract : Evm.Address, Bytes.Hex.Spells p.1.address contract.bytes := by
  rw [places_stockedFaucet, List.forall_mem_cons, List.forall_mem_singleton]
  simp only [← EvmChain.address_ok_iff_spells]
  exact ⟨EvmChain.address_of_isValid (by decide), EvmChain.address_of_isValid (by decide)⟩

/-- A world in which every exchange ends alike. -/
def steadyWorld (outcome : Outcome) : World where
  outcomes := fun _ => outcome
  exchanged := []
  desk := ⟨.empty, fun _ => ⟨2024, 1, 2, 3, 4, 5, 0⟩⟩

theorem outcome_of_steady {outcome : Outcome} {calls : List Exchanged}
    (outcomes : calls.map (·.2) = (List.range calls.length).map (steadyWorld outcome).outcomes) :
    ∀ call ∈ calls, call.2 = outcome := by
  intro call mem
  have among := List.mem_map_of_mem (f := (·.2)) mem
  rw [outcomes] at among
  obtain ⟨_, -, same⟩ := List.mem_map.1 among
  exact same.symm

/-- Two tokens on one chain. If the contracts return 2050 as balances and two as decimal places, both are
told of with two decimal places and a balance of 20.5, whatever they were registered with; if the node
answers nothing, it is asked once. -/
theorem tokenList_complete_two : stockedFaucet.chains.Arises ∧ stockedFaucet.tokens.Arises ∧
    (∃ infos w', stockedFaucet.tokenList.run.run World.answer (steadyWorld wordOutcome) =
        (.ok infos, w') ∧
      infos.map (fun i => (i.address, i.chainId)) =
        [(olderCoin.address, "18446744073709551615"), (coin.address, "18446744073709551615")] ∧
      ∀ i ∈ infos, i.decimals = 2 ∧ i.balance = ⟨0x4034800000000000⟩) ∧
    ∃ why w', stockedFaucet.tokenList.run.run World.answer (steadyWorld .timedOut) =
        (.error (.chain why), w') ∧
      w'.exchanged.length = 1 := by
  have chains := arises_stockedChains
  have tokens := arises_stockedTokens
  refine ⟨chains, tokens, ?_, ?_⟩
  · obtain ⟨-, -, calls, told, w', ran, -, outcomes, -, enumerated, named⟩ :=
      tokenList_complete stockedFaucet chains tokens (steadyWorld wordOutcome)
    have alike := outcome_of_steady outcomes
    obtain ⟨held, scaled, value⟩ := returns_wordOutcome
    obtain ⟨infos, rfl⟩ := enumerated.ok_of_answered named_stockedFaucet fun call mem => by
      rw [alike call mem]
      exact ⟨⟨_, held⟩, _, scaled⟩
    refine ⟨infos, w', ran, named _ rfl, fun i mem => ?_⟩
    obtain ⟨call, asked, call', asked', balance, held', scaled', converted⟩ := enumerated.answered i mem
    rw [alike call asked] at held'
    rw [alike call' asked'] at scaled'
    have decimals := scaled'.unique scaled
    rw [held'.unique held, decimals] at converted
    exact ⟨decimals, converted.trans value⟩
  · obtain ⟨-, -, calls, told, w', ran, exchanged, outcomes, -, enumerated, -⟩ :=
      tokenList_complete stockedFaucet chains tokens (steadyWorld .timedOut)
    have nonempty : stockedFaucet.places ≠ [] := by
      rw [places_stockedFaucet]
      exact List.cons_ne_nil _ _
    obtain ⟨why, rfl, once⟩ := enumerated.error_of_silent nonempty named_stockedFaucet
      fun call mem balance returns => by
        rw [outcome_of_steady outcomes call mem] at returns
        obtain ⟨_, ⟨_, answers, _⟩, _⟩ := returns
        cases answers
    refine ⟨why, w', ran, ?_⟩
    rw [exchanged]
    exact once

end Example

end TokenFaucet.Faucet
