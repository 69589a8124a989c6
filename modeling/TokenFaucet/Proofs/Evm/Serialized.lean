import Mathlib.Algebra.BigOperators.Group.Finset.Basic
import Mathlib.Algebra.Order.BigOperators.Group.Finset
import Mathlib.Data.Fintype.Card
import Mathlib.Data.List.Nodup
import TokenFaucet.Proofs.Evm.Address
import TokenFaucet.Proofs.Evm.Lane

set_option autoImplicit false

attribute [local instance (2000)] instPowNat

namespace TokenFaucet.EvmChain

open Dialogue (Leads Turns turnsOf)
open Network (Attempt Outcome Query Request Session Turn inquire)

/-- A transfer that is asked for. -/
structure Order where
  receiver : String
  amount : MinorUnits
  token : Option String

/-- The receiver is valid, and the token, if there is one, has an account. -/
structure Order.Valid (order : Order) : Prop where
  receiver : Evm.Address.isValid order.receiver = true
  token : ∀ text, order.token = some text → ∃ contract, address text = .ok contract

def Order.program (c : EvmChain) (order : Order) : Session (Except ChainError String) :=
  (c.send order.receiver order.amount order.token).run

/-- A program that takes the lane before anything else, and then transfers. -/
def Starts (c : EvmChain) (program : Session (Except ChainError String)) : Prop :=
  ∃ account amount contract, program =
    .ask (.acquire c.client.name) fun _ => c.holding (c.submit account amount contract)

theorem Order.Valid.starts {c : EvmChain} (serial : c.serializes = true) {order : Order}
    (valid : order.Valid) : Starts c (order.program c) := by
  obtain ⟨account, readReceiver⟩ := address_of_isValid valid.receiver
  have readable : ∃ contract, tokenAddress order.token = .ok contract := by
    cases token : order.token with
    | none => exact ⟨none, rfl⟩
    | some text =>
        obtain ⟨contract, read⟩ := valid.token text token
        exact ⟨some contract, congrArg (Except.map some) read⟩
  obtain ⟨contract, readToken⟩ := readable
  exact ⟨account, order.amount, contract, c.send_run serial order.amount readReceiver readToken⟩

variable {ι : Type}

/-- Who took the lane, in order. -/
def acquirers (trace : List (ι × Turn)) : List ι :=
  trace.filterMap fun taken => if acquires taken.2 then some taken.1 else none

/-- A submission: whose it is, its bytes, and the node's answer. -/
structure Submission (ι : Type) where
  sender : ι
  raw : Bytes
  outcome : Outcome

/-- The submission in a turn, if there is one. -/
def Submission.ofTurn? (taken : ι × Turn) : Option (Submission ι) :=
  (submission? taken.2).map fun sent => ⟨taken.1, sent.1, sent.2⟩

/-- The submissions, in order. -/
def submissions (trace : List (ι × Turn)) : List (Submission ι) :=
  trace.filterMap Submission.ofTurn?

/-- Who submitted, in order. -/
def submitters (trace : List (ι × Turn)) : List ι :=
  (submissions trace).map (·.sender)

section Snoc

variable (trace : List (ι × Turn)) (i : ι)

theorem acquirers_snoc_acquire (lane : String) (u : Unit) :
    acquirers (trace ++ [(i, ⟨.acquire lane, u⟩)]) = acquirers trace ++ [i] :=
  List.filterMap_append

theorem acquirers_snoc_of_other (turn : Turn) (other : acquires turn = false) :
    acquirers (trace ++ [(i, turn)]) = acquirers trace := by
  simp [acquirers, List.filterMap_append, other]

theorem submissions_snoc_of_none (turn : Turn) (nothing : submission? turn = none) :
    submissions (trace ++ [(i, turn)]) = submissions trace := by
  simp [submissions, List.filterMap_append, Submission.ofTurn?, nothing]

theorem submissions_snoc_of_some {turn : Turn} {raw : Bytes} {outcome : Outcome}
    (submits : submission? turn = some (raw, outcome)) :
    submissions (trace ++ [(i, turn)]) = submissions trace ++ [⟨i, raw, outcome⟩] := by
  simp [submissions, List.filterMap_append, Submission.ofTurn?, submits]

end Snoc

/-- A transfer that has ended well. -/
def EndedWell (program : Session (Except ChainError String)) : Prop :=
  ∃ id, program = .done (.ok id)

/-- The submissions of a run are what the node accepted, it accepted each of them, and their nonces
are those from `first` on. -/
structure Consecutive (c : EvmChain) (first : Nat) (trace : List (ι × Turn)) (site : Site) :
    Prop where
  accepted : site.accepted = (submissions trace).map (·.raw)
  named : ∀ sent ∈ submissions trace, ∃ id, c.submissionAnswer sent.outcome = .ok id
  nonces : (submissions trace).map (fun sent => Evm.nonceOf? sent.raw) =
    (List.range (submissions trace).length).map fun k => some (first + k)

theorem Consecutive.length {c : EvmChain} {first : Nat} {trace : List (ι × Turn)} {site : Site}
    (consecutive : Consecutive c first trace site) :
    site.accepted.length = (submissions trace).length := by
  rw [consecutive.accepted, List.length_map]

/-- Who holds the lane, and how far the transfer is that does. -/
inductive Phase (c : EvmChain) (first : Nat) (site : Site)
    (programs : ι → Session (Except ChainError String)) (acquirers submitters : List ι) : Prop where
  | free (released : site.taken = false) (all : submitters = acquirers)
      (ended : ∀ i ∈ acquirers, EndedWell (programs i))
  | held {i : ι} (taken : site.taken = true) (last : acquirers = submitters ++ [i])
      (ended : ∀ j ∈ submitters, EndedWell (programs j))
      (stage : Stage c (first + site.accepted.length) (programs i))
  | leaving {before : List ι} {i : ι} {id : String} (taken : site.taken = true)
      (all : submitters = acquirers) (last : acquirers = before ++ [i])
      (ended : ∀ j ∈ before, EndedWell (programs j)) (leaves : programs i = c.leaving (.ok id))

/-- What holds after every turn. -/
structure Orderly (c : EvmChain) (first : Nat)
    (programs : ι → Session (Except ChainError String)) (trace : List (ι × Turn))
    (programs' : ι → Session (Except ChainError String)) (site : Site) : Prop where
  consecutive : Consecutive c first trace site
  once : (acquirers trace).Nodup
  waiting : ∀ i, i ∉ acquirers trace → programs' i = programs i
  phase : Phase c first site programs' (acquirers trace) (submitters trace)

variable {c : EvmChain} {first : Nat} {programs programs' : ι → Session (Except ChainError String)}
  {trace : List (ι × Turn)} {site site' : Site}

theorem EndedWell.not_asks {program : Session (Except ChainError String)} {q : Query}
    {next : q.Answer → Session (Except ChainError String)} (ended : EndedWell program)
    (asks : program = .ask q next) : False := by
  obtain ⟨id, done⟩ := ended
  rw [done] at asks
  cases asks

theorem Consecutive.keep {trace' : List (ι × Turn)} (consecutive : Consecutive c first trace site)
    (sent : submissions trace' = submissions trace) (same : site'.accepted = site.accepted) :
    Consecutive c first trace' site' where
  accepted := by rw [same, sent, consecutive.accepted]
  named := by rw [sent]; exact consecutive.named
  nonces := by rw [sent]; exact consecutive.nonces

theorem Consecutive.grow {trace' : List (ι × Turn)} (consecutive : Consecutive c first trace site)
    {last : Submission ι} (sent : submissions trace' = submissions trace ++ [last]) {id : String}
    (due : Evm.nonceOf? last.raw = some (first + site.accepted.length))
    (named : c.submissionAnswer last.outcome = .ok id)
    (grown : site'.accepted = site.accepted ++ [last.raw]) : Consecutive c first trace' site' where
  accepted := by rw [grown, sent, consecutive.accepted, List.map_append, List.map_singleton]
  named := by
    rw [sent]
    intro submission mem
    rcases List.mem_append.1 mem with earlier | own
    · exact consecutive.named submission earlier
    · rw [List.mem_singleton.1 own]
      exact ⟨id, named⟩
  nonces := by
    rw [consecutive.length] at due
    rw [sent, List.map_append, consecutive.nonces, List.length_append, List.length_singleton,
      List.range_succ, List.map_append, List.map_singleton, List.map_singleton, due]

theorem Orderly.start : Orderly c first programs [] programs Site.start where
  consecutive := ⟨rfl, (fun _ mem => nomatch mem), rfl⟩
  once := List.nodup_nil
  waiting := fun _ _ => rfl
  phase := .free rfl rfl fun _ mem => nomatch mem

section Step

variable [DecidableEq ι] {i : ι} {q : Query} {next : q.Answer → Session (Except ChainError String)}
  {r : q.Answer}

/-- The last to take the lane has taken it once, and whoever still waits is somebody else. -/
theorem Orderly.of_last (orderly : Orderly c first programs trace programs' site)
    {before : List ι} {h : ι} (last : acquirers trace = before ++ [h])
    (program : Session (Except ChainError String)) :
    h ∉ before ∧
      ∀ j, j ∉ acquirers trace → Function.update programs' h program j = programs j := by
  have once := orderly.once
  rw [last, ← List.concat_eq_append, List.nodup_concat] at once
  constructor
  · exact once.1
  · intro j waits
    have ne : j ≠ h := by
      rintro rfl
      rw [last] at waits
      exact waits (List.mem_append_right _ (List.mem_singleton_self j))
    rw [Function.update_of_ne ne]
    exact orderly.waiting j waits

/-- One that has not taken the lane takes it. -/
theorem Orderly.turn_of_waiting (orderly : Orderly c first programs trace programs' site)
    {account : Evm.Address} {amount : MinorUnits} {contract : Option Evm.Address}
    (starts : programs i = .ask (.acquire c.client.name) fun _ =>
      c.holding (c.submit account amount contract))
    (new : i ∉ acquirers trace) (asks : programs' i = .ask q next)
    (allowed : Allows c first q site r site') :
    Orderly c first programs (trace ++ [(i, ⟨q, r⟩)]) (Function.update programs' i (next r)) site' := by
  have own := orderly.waiting i new
  rw [asks, starts] at own
  cases own
  obtain ⟨free, rfl⟩ := allows_acquire allowed
  have took := acquirers_snoc_acquire trace i c.client.name r
  have sent := submissions_snoc_of_none trace i ⟨.acquire c.client.name, r⟩ rfl
  have who : submitters (trace ++ [(i, ⟨.acquire c.client.name, r⟩)]) = submitters trace := by
    rw [submitters, sent, submitters]
  refine ⟨orderly.consecutive.keep sent rfl, ?_, ?_, ?_⟩
  · rw [took, ← List.concat_eq_append]
    exact List.Nodup.concat new orderly.once
  · intro j waits
    rw [took, List.mem_append, List.mem_singleton, not_or] at waits
    rw [Function.update_of_ne waits.2]
    exact orderly.waiting j waits.1
  · rw [took, who]
    cases orderly.phase with
    | free released all ended =>
        refine .held rfl (by rw [all]) ?_ ?_
        · rw [all]
          exact Dialogue.forall_update ended new _
        · rw [Function.update_self]
          exact .counting account amount contract
    | held taken => exact absurd (free.symm.trans taken) (by decide)
    | leaving taken => exact absurd (free.symm.trans taken) (by decide)

/-- The one that holds the lane goes on. -/
theorem Orderly.turn_of_held (orderly : Orderly c first programs trace programs' site) {h : ι}
    (taken : site.taken = true) (last : acquirers trace = submitters trace ++ [h])
    (ended : ∀ j ∈ submitters trace, EndedWell (programs' j))
    (stage : Stage c (first + site.accepted.length) (programs' h)) (asks : programs' h = .ask q next)
    (allowed : Allows c first q site r site') :
    Orderly c first programs (trace ++ [(h, ⟨q, r⟩)]) (Function.update programs' h (next r)) site' := by
  obtain ⟨other, onward⟩ := stage.step asks allowed
  have took := acquirers_snoc_of_other trace h _ other
  obtain ⟨fresh, waiting⟩ := orderly.of_last last (next r)
  cases onward with
  | next nothing stage same =>
      subst same
      have sent := submissions_snoc_of_none trace h _ nothing
      have who : submitters (trace ++ [(h, ⟨q, r⟩)]) = submitters trace := by
        rw [submitters, sent, submitters]
      refine ⟨orderly.consecutive.keep sent rfl, took ▸ orderly.once, took ▸ waiting, ?_⟩
      rw [took, who]
      refine .held taken last (Dialogue.forall_update ended fresh _) ?_
      rw [Function.update_self]
      exact stage
  | @last raw outcome id submits due named leaves grown =>
      subst grown
      have sent := submissions_snoc_of_some trace h submits
      have who : submitters (trace ++ [(h, ⟨q, r⟩)]) = submitters trace ++ [h] := by
        rw [submitters, sent, submitters, List.map_append, List.map_singleton]
      refine ⟨orderly.consecutive.grow sent due named rfl, took ▸ orderly.once, took ▸ waiting, ?_⟩
      rw [took, who]
      have left : Function.update programs' h (next r) h = c.leaving (.ok id) := by
        rw [Function.update_self]
        exact leaves
      exact .leaving taken last.symm last (Dialogue.forall_update ended fresh _) left

/-- The one that is done releases the lane. -/
theorem Orderly.turn_of_leaving (orderly : Orderly c first programs trace programs' site)
    {before : List ι} {h : ι} {id : String} (all : submitters trace = acquirers trace)
    (last : acquirers trace = before ++ [h]) (ended : ∀ j ∈ before, EndedWell (programs' j))
    (leaves : programs' h = c.leaving (.ok id)) (asks : programs' h = .ask q next)
    (allowed : Allows c first q site r site') :
    Orderly c first programs (trace ++ [(h, ⟨q, r⟩)]) (Function.update programs' h (next r)) site' := by
  rw [leaves] at asks
  cases asks
  obtain rfl := allows_release allowed
  have took := acquirers_snoc_of_other trace h ⟨.release c.client.name, r⟩ rfl
  have sent := submissions_snoc_of_none trace h ⟨.release c.client.name, r⟩ rfl
  have who : submitters (trace ++ [(h, ⟨.release c.client.name, r⟩)]) = submitters trace := by
    rw [submitters, sent, submitters]
  obtain ⟨fresh, waiting⟩ := orderly.of_last last (.done (.ok id))
  refine ⟨orderly.consecutive.keep sent rfl, took ▸ orderly.once, took ▸ waiting, ?_⟩
  rw [took, who]
  refine .free rfl all ?_
  rw [last]
  intro j mem
  rcases List.mem_append.1 mem with earlier | own
  · exact Dialogue.forall_update ended fresh _ j earlier
  · rw [List.mem_singleton.1 own, Function.update_self]
    exact ⟨id, rfl⟩

end Step

theorem Orderly.turn [DecidableEq ι] (starts : ∀ i, Starts c (programs i))
    (orderly : Orderly c first programs trace programs' site) {i : ι} {q : Query}
    {next : q.Answer → Session (Except ChainError String)} {r : q.Answer}
    (asks : programs' i = .ask q next) (allowed : Allows c first q site r site') :
    Orderly c first programs (trace ++ [(i, ⟨q, r⟩)]) (Function.update programs' i (next r)) site' := by
  obtain ⟨account, amount, contract, start⟩ := starts i
  by_cases took : i ∈ acquirers trace
  · cases orderly.phase with
    | free released all ended => exact ((ended i took).not_asks asks).elim
    | held taken last ended stage =>
        rcases List.mem_append.1 (last ▸ took) with earlier | own
        · exact ((ended i earlier).not_asks asks).elim
        · obtain rfl := List.mem_singleton.1 own
          exact orderly.turn_of_held taken last ended stage asks allowed
    | leaving taken all last ended leaves =>
        rcases List.mem_append.1 (last ▸ took) with earlier | own
        · exact ((ended i earlier).not_asks asks).elim
        · obtain rfl := List.mem_singleton.1 own
          exact orderly.turn_of_leaving all last ended leaves asks allowed
  · exact orderly.turn_of_waiting start took asks allowed

theorem orderly_of_turns [DecidableEq ι] (starts : ∀ i, Starts c (programs i))
    (run : Turns (Allows c first) programs Site.start trace programs' site) :
    Orderly c first programs trace programs' site := by
  induction run with
  | start => exact .start
  | turn before asks allowed ih => exact ih.turn starts asks allowed

section Main

variable [DecidableEq ι]

theorem brief_of_turns (starts : ∀ i, Starts c (programs i))
    (run : Turns (Allows c first) programs Site.start trace programs' site) (i : ι) :
    (turnsOf i trace).length ≤ 6 := by
  obtain ⟨account, amount, contract, start⟩ := starts i
  have leads := run.leads i
  rw [start] at leads
  exact leads.length_le fun _ => c.brief_submit account amount contract

/-- Whoever has ended has ended well. -/
theorem Orderly.endedWell (starts : ∀ i, Starts c (programs i))
    (orderly : Orderly c first programs trace programs' site) {i : ι} {r : Except ChainError String}
    (ended : programs' i = .done r) : EndedWell (programs' i) := by
  obtain ⟨account, amount, contract, start⟩ := starts i
  by_cases took : i ∈ acquirers trace
  · cases orderly.phase with
    | free released all well => exact well i took
    | held taken last well stage =>
        rcases List.mem_append.1 (last ▸ took) with earlier | own
        · exact well i earlier
        · obtain rfl := List.mem_singleton.1 own
          exact (stage.not_done ended).elim
    | leaving taken all last well leaves =>
        rcases List.mem_append.1 (last ▸ took) with earlier | own
        · exact well i earlier
        · obtain rfl := List.mem_singleton.1 own
          rw [leaves] at ended
          cases ended
  · rw [orderly.waiting i took, start] at ended
    cases ended

/-- A turn can be taken. -/
def GoesOn (c : EvmChain) (first : Nat) (programs : ι → Session (Except ChainError String))
    (site : Site) : Prop :=
  ∃ i q next r site', programs i = .ask q next ∧ Allows c first q site r site'

/-- Where no turn can be taken, every transfer has taken the lane and ended well. -/
theorem Orderly.goesOn_or_complete [Fintype ι] (starts : ∀ i, Starts c (programs i))
    (room : first + Fintype.card ι ≤ UInt64.size)
    (orderly : Orderly c first programs trace programs' site) :
    GoesOn c first programs' site ∨
      submitters trace = acquirers trace ∧
        ∀ i, i ∈ acquirers trace ∧ EndedWell (programs' i) := by
  cases orderly.phase with
  | free released all ended =>
      by_cases every : ∀ i, i ∈ acquirers trace
      · exact .inr ⟨all, fun i => ⟨every i, ended i (every i)⟩⟩
      · obtain ⟨i, waits⟩ := not_forall.1 every
        obtain ⟨account, amount, contract, start⟩ := starts i
        have own := (orderly.waiting i waits).trans start
        exact .inl ⟨i, .acquire _, _, (), _, own, .acquire released⟩
  | @held i taken last ended stage =>
      have bound := orderly.once.length_le_card
      have count := orderly.consecutive.length
      rw [last, List.length_append, List.length_singleton, submitters, List.length_map,
        ← count] at bound
      have room : first + site.accepted.length < UInt64.size := by omega
      obtain ⟨q, next, r, site', asks, allowed⟩ := stage.goesOn room
      exact .inl ⟨i, q, next, r, site', asks, allowed⟩
  | @leaving before i id taken all last ended leaves =>
      exact .inl ⟨i, .release _, _, (), _, leaves, .release⟩

theorem count_senders (trace : List (ι × Turn)) (i : ι) :
    (trace.map Prod.fst).count i = (turnsOf i trace).length := by
  induction trace with
  | nil => rfl
  | cons taken rest ih =>
      rw [List.map_cons, List.count_cons, ih, turnsOf, turnsOf, List.filterMap_cons]
      by_cases same : taken.1 = i
      · simp only [same, beq_self_eq_true, if_true, List.length_cons]
      · simp only [same, beq_iff_eq, if_false, Nat.add_zero]

theorem length_le_of_turnsOf [Fintype ι] {n : Nat} (each : ∀ i, (turnsOf i trace).length ≤ n) :
    trace.length ≤ Fintype.card ι * n := by
  calc trace.length = (trace.map Prod.fst).length := (List.length_map _).symm
    _ = ∑ i ∈ (trace.map Prod.fst).toFinset, (trace.map Prod.fst).count i :=
        (List.sum_toFinset_count_eq_length _).symm
    _ ≤ (trace.map Prod.fst).toFinset.card * n := by
        apply Finset.sum_le_card_nsmul
        intro i mem
        rw [count_senders]
        exact each i
    _ ≤ Fintype.card ι * n := Nat.mul_le_mul_right n (Finset.card_le_univ _)

/-- Every run can go on until all transfers have ended well. -/
theorem exists_complete [Fintype ι] (starts : ∀ i, Starts c (programs i))
    (room : first + Fintype.card ι ≤ UInt64.size)
    (run : Turns (Allows c first) programs Site.start trace programs' site) :
    ∃ later programs'' site'', Turns (Allows c first) programs Site.start (trace ++ later) programs''
      site'' ∧ ∀ i, EndedWell (programs'' i) := by
  generalize left : Fintype.card ι * 6 - trace.length = n
  induction n using Nat.strong_induction_on generalizing trace programs' site with
  | _ n ih =>
      rcases (orderly_of_turns starts run).goesOn_or_complete starts room with more | ⟨-, ended⟩
      · obtain ⟨i, q, next, r, site', asks, allowed⟩ := more
        have further := run.turn asks allowed
        have bound := length_le_of_turnsOf (brief_of_turns starts further)
        rw [List.length_append, List.length_singleton] at bound
        obtain ⟨later, programs'', site'', onward, ended⟩ :=
          ih (Fintype.card ι * 6 - (trace.length + 1)) (by omega) further (by
            rw [List.length_append, List.length_singleton])
        rw [List.append_assoc] at onward
        exact ⟨_, programs'', site'', onward, ended⟩
      · refine ⟨[], programs', site, ?_, fun i => (ended i).2⟩
        rw [List.append_nil]
        exact run

end Main

/-- Transfers in turns of which the node has accepted every submission so far, with the nonces from
`first` on, in the order in which the lane was taken; each takes six turns at most, whoever has ended
has ended well, and when no turn can be taken any more all have submitted and ended. -/
structure Serialized (c : EvmChain) (first : Nat) (trace : List (ι × Turn))
    (programs' : ι → Session (Except ChainError String)) (site : Site) [DecidableEq ι] : Prop where
  consecutive : Consecutive c first trace site
  order : submitters trace <+: acquirers trace
  once : (acquirers trace).Nodup
  brief : ∀ i, (turnsOf i trace).length ≤ 6
  ended : ∀ i r, programs' i = .done r → ∃ id, r = .ok id
  complete : ¬ GoesOn c first programs' site →
    submitters trace = acquirers trace ∧ ∀ i, i ∈ submitters trace ∧ ∃ id, programs' i = .done (.ok id)

/-- Any number of valid transfers on a chain that serializes its submissions, in any turns that the
lane and the node allow. The count that the node reports is a word. -/
theorem send_serialized [DecidableEq ι] [Fintype ι] (c : EvmChain) (serial : c.serializes = true)
    (orders : ι → Order) (valid : ∀ i, (orders i).Valid) {first : Nat}
    (room : first + Fintype.card ι ≤ UInt64.size) {trace : List (ι × Turn)}
    {programs' : ι → Session (Except ChainError String)} {site : Site}
    (run : Turns (Allows c first) (fun i => (orders i).program c) Site.start trace programs' site) :
    Serialized c first trace programs' site := by
  have starts (i : ι) := (valid i).starts serial
  have orderly := orderly_of_turns starts run
  refine ⟨orderly.consecutive, ?_, orderly.once, brief_of_turns starts run, ?_, ?_⟩
  · cases orderly.phase with
    | free released all => exact all ▸ List.prefix_refl _
    | @held i taken last => exact ⟨[i], last.symm⟩
    | leaving taken all => exact all ▸ List.prefix_refl _
  · intro i r ended
    obtain ⟨id, well⟩ := orderly.endedWell starts ended
    rw [well] at ended
    cases ended
    exact ⟨id, rfl⟩
  · intro still
    obtain more | ⟨all, every⟩ := orderly.goesOn_or_complete starts room
    · exact absurd more still
    · rw [all]
      exact ⟨rfl, every⟩

/-- A chain that serializes its submissions. -/
def serialChain : EvmChain where
  profile := ⟨"31337", "Devnet", "http://node.example", "ETH", 18⟩
  chainId := 31337
  client :=
    ⟨"evm:31337", ⟨"http", .server "" "" (.domain "node.example") none, "/", none, none⟩, 5000, 0⟩
  signer := .ofKey ⟨1, by decide, by decide⟩
  serializes := true

/-- A transfer of the native currency and one of a token. -/
def serialOrders : Bool → Order
  | true => ⟨"0x70997970C51812dc3A010C7d01b50e0d17dc79C8", ⟨1000, by decide⟩, none⟩
  | false =>
    ⟨"0x70997970c51812dc3a010c7d01b50e0d17dc79c8", ⟨5, by decide⟩,
      some "0x5fbdb2315678afecb367f032d93f642f64180aa3"⟩

theorem valid_serialOrders (i : Bool) : (serialOrders i).Valid := by
  cases i with
  | true => exact ⟨by decide, fun _ same => nomatch same⟩
  | false =>
      refine ⟨by decide, ?_⟩
      rintro _ ⟨⟩
      exact address_of_isValid (by decide)

/-- A node that knows seven transactions accepts those of both transfers. -/
theorem send_serialized_twice : ∃ (trace : List (Bool × Turn))
    (programs' : Bool → Session (Except ChainError String)) (site : Site),
    Turns (Allows serialChain 7) (fun i => (serialOrders i).program serialChain) Site.start trace
      programs' site ∧
    (∀ i, (serialOrders i).Valid) ∧ serialChain.serializes = true ∧
    7 + Fintype.card Bool ≤ UInt64.size ∧ Serialized serialChain 7 trace programs' site ∧
    (∀ i, EndedWell (programs' i)) ∧
    (submissions trace).map (fun sent => Evm.nonceOf? sent.raw) = [some 7, some 8] := by
  have room : 7 + Fintype.card Bool ≤ UInt64.size := by decide
  have serial : serialChain.serializes = true := rfl
  have starts (i : Bool) := (valid_serialOrders i).starts serial
  obtain ⟨trace, programs', site, run, ended⟩ := exists_complete starts room .start
  rw [List.nil_append] at run
  have serialized := send_serialized serialChain serial serialOrders valid_serialOrders room run
  have still : ¬ GoesOn serialChain 7 programs' site := by
    rintro ⟨i, q, next, r, site', asks, -⟩
    exact (ended i).not_asks asks
  obtain ⟨all, every⟩ := serialized.complete still
  have two : (submissions trace).length = 2 := by
    have once := serialized.once
    rw [← all] at once
    have card := List.toFinset_card_of_nodup once
    have full : (submitters trace).toFinset = Finset.univ :=
      Finset.eq_univ_of_forall fun i => List.mem_toFinset.2 (every i).1
    rw [full, submitters, List.length_map] at card
    exact card.symm
  have nonces := serialized.consecutive.nonces
  rw [two] at nonces
  exact ⟨trace, programs', site, run, valid_serialOrders, rfl, room, serialized, ended, nonces⟩

end TokenFaucet.EvmChain
