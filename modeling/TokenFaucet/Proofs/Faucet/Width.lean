import TokenFaucet.Proofs.Chain.Plan
import TokenFaucet.Proofs.Faucet.Dispatch
import TokenFaucet.Proofs.Solana.Address
import TokenFaucet.Server.Respond

set_option autoImplicit false

attribute [local instance (2000)] instPowNat

namespace TokenFaucet

open Dialogue (Course Follows)
open Network (Outcome inquire)

namespace Chain

/-- An amount has no room in a transaction of a cluster, which then fails with that error. -/
inductive TooWide : Chain → MinorUnits → ChainError → Prop where
  | lamports {c : SolanaChain} {amount : MinorUnits} (wide : UInt64.size ≤ amount.toNat) :
      TooWide (.solana c) amount (.tooManyLamports amount)
  | yocto {c : NearChain} {amount : MinorUnits} (wide : 2 ^ NearChain.depositBits ≤ amount.toNat) :
      TooWide (.near c) amount (.tooManyYocto amount)

/-- The question what the signer holds of the native currency. -/
def fundsRequest : Chain → Network.Request
  | .evm c => c.balanceRequest c.signer.address
  | .solana c => c.balanceRequest c.signer.address
  | .near c => c.balanceRequest c.signer.accountId

def fundsAnswer : Chain → Outcome → Except ChainError MinorUnits
  | .evm c => c.rpcAnswer "eth_getBalance" Evm.Reply.amount
  | .solana c => c.balanceAnswer
  | .near c => c.balanceAnswer

variable {c : Chain} {amount : MinorUnits} {why : ChainError}

theorem balance_signer_eq (c : Chain) :
    c.balance c.signerAddress none = inquire c.fundsRequest c.fundsAnswer := by
  cases c with
  | evm c => exact c.balance_native_eq c.address_signer
  | solana c => exact c.balance_eq _
  | near c => exact c.balance_eq _

theorem isSubmission_fundsRequest (c : Chain) : c.fundsRequest.isSubmission = false := by
  cases c <;> rfl

/-- What a Solana account holds fits the word that its node reports it in. -/
theorem fundsAnswer_solana_lt {c : SolanaChain} {outcome : Outcome} {balance : MinorUnits}
    (answered : fundsAnswer (.solana c) outcome = .ok balance) : balance.toNat < UInt64.size := by
  obtain ⟨lamports, -, rfl⟩ := map_eq_ok_iff.1 answered
  exact lamports.toNat_lt

theorem TooWide.isValidation (wide : c.TooWide amount why) : why.isValidation = true := by
  cases wide <;> rfl

/-- Sending such an amount to an account fails before anything is asked. -/
theorem TooWide.send_eq (wide : c.TooWide amount why) {receiver : String}
    (receivable : c.isReceiver receiver = true) (token : Option String) :
    c.send receiver amount token = throw why := by
  cases wide with
  | @lamports c amount wide =>
      obtain ⟨account, read⟩ := Solana.Address.parse?_of_isValid receivable
      apply c.send_of_error
      rw [SolanaChain.transferInput, read]
      exact if_neg (Nat.not_lt.2 wide)
  | @yocto c amount wide =>
      apply c.send_of_error
      exact if_neg (Nat.not_lt.2 wide)

end Chain

namespace Faucet

variable {f : Faucet} {userId : String} {t : Transfer} {c : Chain} {amount : MinorUnits}
  {why : ChainError} {turns : List Turn} {r : Except FaucetError String}

/-- Whether the funds that the node tells of are enough. -/
def judged (c : Chain) (amount : MinorUnits) (outcome : Outcome) : Except FaucetError Unit :=
  ((c.fundsAnswer outcome).mapError FaucetError.chain).bind fun balance =>
    if balance.le amount then .error (.insufficientBalance c.kind c.id) else .ok ()

theorem course_checkFunds_native {decimals : UInt8} {r : Except FaucetError Unit}
    (course : Course (checkFunds c ⟨none, decimals⟩ amount).run turns r) :
    ∃ outcome : Outcome, turns = [Turn.ofNetwork ⟨.exchange c.fundsRequest, outcome⟩] ∧
      r = judged c amount outcome := by
  unfold checkFunds at course
  dsimp only at course
  rw [c.balance_signer_eq] at course
  obtain ⟨outcome, rest, rfl, ⟨e, refused, rfl, rfl⟩ | ⟨balance, told, ended⟩⟩ :=
    course_onChain_inquire_bind_iff.1 course
  · refine ⟨outcome, rfl, ?_⟩
    rw [judged, refused]
    rfl
  · refine ⟨outcome, ?_⟩
    rw [judged, told]
    change _ ∧ r = if balance.le amount then _ else _
    split at ended
    · next short =>
        obtain ⟨rfl, rfl⟩ := Dialogue.course_throw_iff.1 ended
        exact ⟨rfl, (if_pos short).symm⟩
    · next enough =>
        obtain ⟨rfl, rfl⟩ := Dialogue.course_pure_iff.1 ended
        exact ⟨rfl, (if_neg enough).symm⟩

theorem resolveAsset_native (asksNative : t.token = none)
    (named : c.profile.nativeToken = t.symbol) :
    f.resolveAsset c t = pure ⟨none, c.profile.decimals⟩ := by
  unfold resolveAsset
  rw [asksNative]
  exact if_neg (not_not_intro named)

/-- A transfer of the native currency to an account, of an amount that is too wide: the funds are asked
for, and it ends there. -/
theorem course_dispatch_tooWide (parsed : MinorUnits.parseTransfer t.amount = .ok amount)
    (found : f.chains.get? t.kind t.chainId = some c) (receivable : c.isReceiver t.receiver = true)
    (foreign : isSigner c t.receiver = false) (asksNative : t.token = none)
    (named : c.profile.nativeToken = t.symbol) (wide : c.TooWide amount why)
    (course : Course (f.dispatch userId t).run turns r) :
    ∃ outcome : Outcome, turns = [Turn.ofNetwork ⟨.exchange c.fundsRequest, outcome⟩] ∧
      r = (judged c amount outcome).bind fun _ => .error (.chain why) := by
  unfold dispatch at course
  rw [parsed, chainOf_eq_ok_iff.2 found] at course
  change Course (do
    liftM (checkReceiver c t.receiver)
    let asset ← f.resolveAsset c t
    checkFunds c asset amount
    let id ← onChain (c.send t.receiver amount asset.token)
    recordPayment userId c asset amount
    return id : Attempt String).run turns r at course
  rw [checkReceiver_eq_ok_iff.2 ⟨receivable, foreign⟩, resolveAsset_native asksNative named] at course
  change Course (do
    checkFunds c ⟨none, c.profile.decimals⟩ amount
    let id ← onChain (c.send t.receiver amount none)
    recordPayment userId c ⟨none, c.profile.decimals⟩ amount
    return id : Attempt String).run turns r at course
  -- the width is looked at by the sending, so that the funds have been looked at before
  rw [wide.send_eq receivable] at course
  obtain ⟨e, rfl, failed⟩ | ⟨_, first, second, rfl, held, paying⟩ := Dialogue.course_bind_iff.1 course
  · obtain ⟨outcome, rfl, refusal⟩ := course_checkFunds_native failed
    exact ⟨outcome, rfl, by rw [← refusal]; rfl⟩
  · obtain ⟨outcome, rfl, enough⟩ := course_checkFunds_native held
    obtain ⟨rfl, rfl⟩ := Dialogue.course_throw_iff.1 paying
    exact ⟨outcome, rfl, by rw [← enough]; rfl⟩

/-- A transfer of the native currency to an account that is not the signer's, of an amount that the
cluster has no room for, asks for the funds and nothing else: nothing is submitted and the ledger stays
as it is. Whatever the node says of the funds, the transfer is refused; as the caller's error if they
exceed the amount, and else for lack of funds. On Solana no answer exceeds it. -/
theorem dispatch_tooWide (parsed : MinorUnits.parseTransfer t.amount = .ok amount)
    (found : f.chains.get? t.kind t.chainId = some c) (receivable : c.isReceiver t.receiver = true)
    (foreign : isSigner c t.receiver = false) (asksNative : t.token = none)
    (named : c.profile.nativeToken = t.symbol) (wide : c.TooWide amount why)
    (course : Course (f.dispatch userId t).run turns r) :
    Network.submissions (exchanges turns) = [] ∧
      (∀ w w', Follows World.answer w turns w' → w'.desk = w.desk) ∧
      ∃ outcome : Outcome, exchanges turns = [(c.fundsRequest, outcome)] ∧
        ∀ balance, c.fundsAnswer outcome = .ok balance →
          (balance.toNat ≤ amount.toNat →
            r = .error (.insufficientBalance c.kind c.id) ∧
              Server.statusOf (.insufficientBalance c.kind c.id) = 500) ∧
          (amount.toNat < balance.toNat →
            r = .error (.chain why) ∧ (FaucetError.chain why).category = .validation ∧
              Server.statusOf (.chain why) = 400) ∧
          (∀ s, c = .solana s → balance.toNat ≤ amount.toNat) := by
  obtain ⟨outcome, rfl, rfl⟩ :=
    course_dispatch_tooWide parsed found receivable foreign asksNative named wide course
  have kept (w w' : World)
      (follows : Follows World.answer w [Turn.ofNetwork ⟨.exchange c.fundsRequest, outcome⟩] w') :
      w'.desk = w.desk := by
    have asked : Follows World.answer w
        ([(⟨.exchange c.fundsRequest, outcome⟩ : Network.Turn)].map Turn.ofNetwork) w' := follows
    exact desk_of_follows_network asked
  refine ⟨Network.submissions_cons_of_other outcome [] c.isSubmission_fundsRequest, kept, outcome, rfl,
    fun balance answered => ?_⟩
  have result : judged c amount outcome = if balance.le amount then
      .error (.insufficientBalance c.kind c.id) else .ok () := by
    rw [judged, answered]
    rfl
  rw [result]
  refine ⟨fun short => ?_, fun enough => ?_, ?_⟩
  · rw [if_pos (by simpa [MinorUnits.le] using short)]
    exact ⟨rfl, rfl⟩
  · rw [if_neg (by simpa [MinorUnits.le] using enough)]
    have callers : (FaucetError.chain why).category = .validation := by
      rw [FaucetError.category, if_pos wide.isValidation]
    refine ⟨rfl, callers, ?_⟩
    rw [Server.statusOf, callers]
  · rintro s rfl
    have room := Chain.fundsAnswer_solana_lt answered
    cases wide with
    | lamports wide => exact Nat.le_of_lt (Nat.lt_of_lt_of_le room wide)

section Example

def fullCluster : SolanaChain where
  profile := ⟨"devnet", "Solana", "http://sol.example", "SOL", 9⟩
  client :=
    ⟨"solana:devnet", ⟨"http", .server "" "" (.domain "sol.example") none, "/", none, none⟩, 5000, 1⟩
  signer := ⟨⟨List.replicate 32 4, rfl⟩⟩

def fullFaucet : Faucet :=
  ⟨⟨[((.solana, "devnet"), .solana fullCluster)]⟩, .empty⟩

/-- One lamport more than a word counts. -/
def wideTransfer : Transfer :=
  ⟨.solana, "devnet", "9WzDXwBbmkg8ZTbNMqUxvQRAyrZzDsGYdLVL9zYtAWWM", "18446744073709551616", "SOL",
    none⟩

/-- A node that tells of as many lamports as a word counts. -/
def fullOutcome : Outcome :=
  .answer 200 "\x7b\"result\":\x7b\"value\":18446744073709551615\x7d\x7d"

def fullWorld : World where
  outcomes := fun _ => fullOutcome
  exchanged := []
  desk := ⟨.empty, fun _ => ⟨2024, 1, 2, 3, 4, 5, 0⟩⟩

def wideAmount : MinorUnits :=
  ⟨18446744073709551616, by decide⟩

def fullBalance : MinorUnits :=
  ⟨18446744073709551615, by decide⟩

theorem wideTransfer_parsed : MinorUnits.parseTransfer wideTransfer.amount = .ok wideAmount :=
  toOption_eq_some_iff.1 (by decide +kernel)

theorem wideTransfer_receivable :
    (Chain.solana fullCluster).isReceiver wideTransfer.receiver = true := by
  decide +kernel

theorem wideTransfer_foreign : isSigner (.solana fullCluster) wideTransfer.receiver = false := by
  decide +kernel

theorem wideAmount_tooWide :
    (Chain.solana fullCluster).TooWide wideAmount (.tooManyLamports wideAmount) :=
  .lamports (by decide)

theorem full_answered : (Chain.solana fullCluster).fundsAnswer fullOutcome = .ok fullBalance :=
  toOption_eq_some_iff.1 (by decide +kernel)

/-- The course that the node's answer leads to. -/
theorem full_course : Course (fullFaucet.dispatch "alice" wideTransfer).run
    [Turn.ofNetwork ⟨.exchange (Chain.solana fullCluster).fundsRequest, fullOutcome⟩]
    (.error (.insufficientBalance .solana "devnet")) := by
  obtain ⟨turns, course, follows⟩ :=
    Dialogue.course_run World.answer (fullFaucet.dispatch "alice" wideTransfer).run fullWorld
  obtain ⟨outcome, shape, result⟩ := course_dispatch_tooWide wideTransfer_parsed rfl
    wideTransfer_receivable wideTransfer_foreign rfl rfl wideAmount_tooWide course
  rw [shape] at follows
  have told : outcome = fullOutcome := (Dialogue.follows_cons_iff.1 follows).1
  rw [judged, told, full_answered] at result
  rw [result, shape, told] at course
  exact course

/-- The funds are as large as a node can tell, and the caller is still not told that the amount is too
wide: the faucet's funds are blamed. -/
theorem wide_amount_blames_funds :
    MinorUnits.parseTransfer wideTransfer.amount = .ok wideAmount ∧ UInt64.size ≤ wideAmount.toNat ∧
      (Chain.solana fullCluster).isReceiver wideTransfer.receiver = true ∧
      isSigner (.solana fullCluster) wideTransfer.receiver = false ∧
      (Chain.solana fullCluster).fundsAnswer fullOutcome = .ok fullBalance ∧
      Course (fullFaucet.dispatch "alice" wideTransfer).run
        [Turn.ofNetwork ⟨.exchange (Chain.solana fullCluster).fundsRequest, fullOutcome⟩]
        (.error (.insufficientBalance .solana "devnet")) ∧
      (FaucetError.insufficientBalance .solana "devnet").category ≠ .validation ∧
      Server.statusOf (.insufficientBalance .solana "devnet") = 500 := by
  exact ⟨wideTransfer_parsed, by decide, wideTransfer_receivable, wideTransfer_foreign, full_answered,
    full_course, by decide, rfl⟩

/-- The transfer of the example is refused as every such transfer is. -/
theorem dispatch_tooWide_full :
    Course (fullFaucet.dispatch "alice" wideTransfer).run
      [Turn.ofNetwork ⟨.exchange (Chain.solana fullCluster).fundsRequest, fullOutcome⟩]
      (.error (.insufficientBalance .solana "devnet")) ∧
    ∀ w w', Follows World.answer w
      [Turn.ofNetwork ⟨.exchange (Chain.solana fullCluster).fundsRequest, fullOutcome⟩] w' →
        w'.desk = w.desk :=
  have refused := dispatch_tooWide wideTransfer_parsed rfl wideTransfer_receivable
    wideTransfer_foreign rfl rfl wideAmount_tooWide full_course
  ⟨full_course, refused.2.1⟩

end Example

end Faucet

end TokenFaucet
