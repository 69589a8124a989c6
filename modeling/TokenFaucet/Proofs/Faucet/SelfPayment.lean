import TokenFaucet.Proofs.Chain.Credited
import TokenFaucet.Proofs.Faucet.Dispatch
import TokenFaucet.Proofs.Faucet.FailFast
import TokenFaucet.Proofs.Faucet.Transactions
import TokenFaucet.Proofs.Networks.Loaded
import TokenFaucet.Proofs.Solana.Address

set_option autoImplicit false

namespace TokenFaucet

open Dialogue (Course FailsOnly)

namespace Chain

variable {c : Chain} {text : String}

theorem HasPayer.of_signedBy {signers : Signers} (named : signers.Named)
    (signed : c.SignedBy signers) : c.HasPayer := by
  cases c with
  | evm c => exact named.evm c.signer signed
  | solana c => trivial
  | near c => exact named.near c.signer signed

theorem denoted?_evm_iff {c : EvmChain} {a : Evm.Address} :
    (evm c).denoted? text = some (.evm a.bytes) ↔ Evm.Address.parse text = .ok a := by
  rw [denoted?, Option.map_eq_some_iff]
  constructor
  · rintro ⟨b, read, same⟩
    rw [toOption_eq_some_iff.1 read, Evm.Address.bytes_injective (Account.evm.inj same)]
  · intro read
    exact ⟨a, toOption_eq_some_iff.2 read, rfl⟩

theorem denoted?_solana_iff {c : SolanaChain} {key : Bytes} (sized : key.length = 32) :
    (solana c).denoted? text = some (.solana key) ↔ Bytes.Base58.encode key = text := by
  rw [denoted?, Option.map_eq_some_iff]
  constructor
  · rintro ⟨a, read, same⟩
    rw [← Account.solana.inj same]
    exact Solana.Address.parse?_eq_some_iff.1 read
  · intro spelled
    exact ⟨⟨key, sized⟩, Solana.Address.parse?_eq_some_iff.2 spelled, rfl⟩

end Chain

namespace Faucet

variable {f : Faucet} {c : Chain} {userId : String} {t : Transfer} {turns : List Turn}
  {r : Except FaucetError String}

/-- A valid text is taken for the faucet's address if and only if it denotes the account that is paid
from. -/
theorem isSigner_iff (pays : c.HasPayer) {text : String} (receivable : c.isReceiver text = true) :
    isSigner c text = true ↔ c.denoted? text = some c.payer := by
  cases c with
  | evm c =>
      -- the check compares checksum texts in lower case, which any spelling of the address has in common
      have own : (EvmSigner.ofKey c.signer.key).address = c.signer.address :=
        congrArg EvmSigner.address (Eq.symm pays)
      rw [Chain.payer, own, Chain.denoted?_evm_iff]
      exact Evm.Address.same_checksumText_iff receivable
  | solana c =>
      have sized : c.signer.publicKey.length = 32 := c.signer.key.length_publicKey
      rw [Chain.payer, Chain.denoted?_solana_iff sized, eq_comm (a := Bytes.Base58.encode _)]
      exact beq_iff_eq
  | near c =>
      rw [Chain.payer, Chain.denoted?, Option.some.injEq, Account.near.injEq]
      exact beq_iff_eq

section Refusals

variable {α : Type}

theorem failsOnly_onChain (program : Network.Attempt ChainError α) :
    FailsOnly (· ≠ FaucetError.paysItself) (onChain program) :=
  failsOnly_onChain_iff.2 fun _ _ _ => FaucetError.noConfusion

theorem failsOnly_onLedger (program : Ledger.Session (Except Ledger.Error α)) :
    FailsOnly (· ≠ FaucetError.paysItself) (onLedger program) :=
  failsOnly_onLedger_of (fun _ => FaucetError.noConfusion) program

theorem failsOnly_resolveAsset (f : Faucet) (c : Chain) (t : Transfer) :
    FailsOnly (· ≠ FaucetError.paysItself) (f.resolveAsset c t) := by
  unfold resolveAsset
  split
  · split
    · exact Dialogue.failsOnly_throw FaucetError.noConfusion
    · exact Dialogue.failsOnly_pure _
  · refine FailsOnly.bind (Dialogue.failsOnly_lift fun e refused => ?_) fun token => ?_
    · intro same
      have category := tokenOn_category refused
      rw [same] at category
      cases category
    · refine (failsOnly_onChain _).bind fun symbol => ?_
      split
      · exact Dialogue.failsOnly_throw FaucetError.noConfusion
      · exact Dialogue.failsOnly_pure _

theorem failsOnly_checkFunds (c : Chain) (asset : Asset) (amount : MinorUnits) :
    FailsOnly (· ≠ FaucetError.paysItself) (checkFunds c asset amount) := by
  refine (failsOnly_onChain _).bind fun balance => ?_
  split
  · exact Dialogue.failsOnly_throw FaucetError.noConfusion
  · exact Dialogue.failsOnly_pure _

/-- Once the receiver has been checked, the refusal does not come any more. -/
theorem failsOnly_payment (f : Faucet) (userId : String) (c : Chain) (t : Transfer)
    (amount : MinorUnits) :
    FailsOnly (· ≠ FaucetError.paysItself) (do
      let asset ← f.resolveAsset c t
      checkFunds c asset amount
      let id ← onChain (c.send t.receiver amount asset.token)
      recordPayment userId c asset amount
      return id) := by
  refine (failsOnly_resolveAsset f c t).bind fun asset => ?_
  refine (failsOnly_checkFunds c asset amount).bind fun _ => ?_
  refine (failsOnly_onChain _).bind fun id => ?_
  refine FailsOnly.bind ?_ fun _ => Dialogue.failsOnly_pure id
  exact (failsOnly_onLedger _).bind fun _ => Dialogue.failsOnly_pure ()

end Refusals

theorem checkReceiver_eq_paysItself_iff {address : String} :
    checkReceiver c address = .error .paysItself ↔
      c.isReceiver address = true ∧ isSigner c address = true := by
  unfold checkReceiver
  cases c.isReceiver address <;> cases isSigner c address <;> simp

/-- The refusal is made for a well-formed amount on a known chain, of a valid receiver that is taken for
the faucet's address, and of those always. -/
theorem eq_paysItself_iff (course : Course (f.dispatch userId t).run turns r) :
    r = .error .paysItself ↔
      ∃ amount c, MinorUnits.parseTransfer t.amount = .ok amount ∧
        f.chains.get? t.kind t.chainId = some c ∧ c.isReceiver t.receiver = true ∧
        isSigner c t.receiver = true := by
  unfold dispatch at course
  obtain ⟨e, refused, -, rfl⟩ | ⟨amount, read, course⟩ := Dialogue.course_lift_bind_iff.1 course
  · obtain ⟨why, unread, rfl⟩ := mapError_eq_error_iff.1 refused
    simp [unread]
  have parsed := mapError_eq_ok_iff.1 read
  obtain ⟨e, refused, -, rfl⟩ | ⟨c, known, course⟩ := Dialogue.course_lift_bind_iff.1 course
  · unfold chainOf at refused
    split at refused
    · cases refused
    · next unknown =>
        cases refused
        simp [unknown]
  have found := chainOf_eq_ok_iff.1 known
  -- all that comes before the check is known now: what remains is the check, and what follows it
  simp only [parsed, found, Except.ok.injEq, Option.some.injEq, exists_and_left, exists_eq_left',
    ← checkReceiver_eq_paysItself_iff]
  obtain ⟨e, refused, -, rfl⟩ | ⟨_, checked, course⟩ := Dialogue.course_lift_bind_iff.1 course
  · rw [refused, Except.error.injEq, Except.error.injEq]
  · rw [checked]
    constructor
    · rintro rfl
      exact absurd rfl (failsOnly_payment f userId c t amount _ _ course)
    · rintro ⟨⟩

/-- What an approved transfer submits credits the account that its receiver denotes. -/
theorem Concludes.credits {asked : List Network.Turn} {asset : Asset} {amount : MinorUnits}
    (approved : Approved f t asked c asset amount) (pays : c.HasPayer)
    (concludes : Concludes userId t asked c asset amount turns r) :
    ∀ x ∈ Network.submissions (exchanges turns), x.1.client = c.client ∧
      ∃ account, c.denoted? t.receiver = some account ∧ c.credited? x.1 = some account := by
  have only := c.submitsOnly_send pays approved.receivable amount asset.token
  intro x mem
  cases concludes with
  | notSent failed =>
      rw [exchanges_ofNetwork, Network.exchanges_append, Network.submissions_append,
        approved.quiet] at mem
      exact only _ _ failed x mem
  | sent sends _ =>
      rw [exchanges_append, exchanges_ofNetwork, exchanges_ofLedger, List.append_nil,
        Network.exchanges_append, Network.submissions_append, approved.quiet] at mem
      exact only _ _ sends x mem

/-- A faucet of loaded networks, whatever the nodes answer: all that a transfer submits credits the
account that its receiver denotes, which is another one than the account of the chain's signer. And a
valid receiver is refused as the faucet's address if and only if it denotes that account. -/
theorem dispatch_pays_others {l : Layout} {secrets : Secrets} {limit : Nat}
    {loading : List Networks.Turn} {networks : Networks}
    (loaded : Course (Networks.load l secrets limit) loading (.ok networks))
    (course : Course (Faucet.dispatch ⟨networks.chains, networks.tokens⟩ userId t).run turns r) :
    (∀ request outcome, (request, outcome) ∈ Network.submissions (exchanges turns) →
      ∃ c account, networks.chains.get? t.kind t.chainId = some c ∧
        c.SignedBy networks.signers ∧ request.client = c.client ∧
        c.denoted? t.receiver = some account ∧ c.credited? request = some account ∧
        account ≠ c.payer) ∧
    (r = .error .paysItself ↔
      ∃ amount c, MinorUnits.parseTransfer t.amount = .ok amount ∧
        networks.chains.get? t.kind t.chainId = some c ∧ c.isReceiver t.receiver = true ∧
        c.denoted? t.receiver = some c.payer) := by
  have payer {c : Chain} (found : networks.chains.get? t.kind t.chainId = some c) :
      c.SignedBy networks.signers ∧ c.HasPayer := by
    obtain ⟨-, -, signed⟩ := Networks.chain_of_load loaded found
    exact ⟨signed, .of_signedBy (Networks.signers_named_of_load loaded) signed⟩
  constructor
  · intro request outcome mem
    obtain ⟨e, -, -, asked, rfl, quiet⟩ | ⟨c, asset, amount, asked, approved, concludes⟩ :=
      dispatch_course course
    · rw [exchanges_ofNetwork, quiet] at mem
      cases mem
    · obtain ⟨signed, pays⟩ := payer approved.found
      obtain ⟨own, account, denoted, credited⟩ := concludes.credits approved pays _ mem
      refine ⟨c, account, approved.found, signed, own, denoted, credited, ?_⟩
      rintro rfl
      -- paying the signer would have needed a receiver that the check does not let through
      have refused := (isSigner_iff pays approved.receivable).2 denoted
      rw [approved.foreign] at refused
      cases refused
  · rw [eq_paysItself_iff course]
    constructor
    · rintro ⟨amount, c, parsed, found, receivable, same⟩
      exact ⟨amount, c, parsed, found, receivable, (isSigner_iff (payer found).2 receivable).1 same⟩
    · rintro ⟨amount, c, parsed, found, receivable, own⟩
      exact ⟨amount, c, parsed, found, receivable, (isSigner_iff (payer found).2 receivable).2 own⟩

section Example

def paidRun (networks : Networks) : Except FaucetError String × World :=
  (Faucet.dispatch ⟨networks.chains, networks.tokens⟩ "alice" clusterTransfer).run.run World.answer
    repeatingWorld

/-- A transfer on a loaded cluster that is paid: its one submission credits the receiver. -/
theorem dispatch_pays_others_cluster : ∃ loading networks turns request outcome c,
    Course (Networks.load clusterLayout clusterSecrets 5000) loading (.ok networks) ∧
      Course (Faucet.dispatch ⟨networks.chains, networks.tokens⟩ "alice" clusterTransfer).run turns
        (.ok "H") ∧
      (request, outcome) ∈ Network.submissions (exchanges turns) ∧
      networks.chains.get? .near "testnet" = some c ∧
      c.credited? request = some (.near "carol.testnet") ∧ c.payer ≠ .near "carol.testnet" := by
  obtain ⟨loading, loaded, -⟩ := Dialogue.course_run unreachableNodes
    (Networks.load clusterLayout clusterSecrets 5000) ()
  have paid : (clusterLoaded.toOption.map fun networks => ((paidRun networks).1.toOption,
      (paidRun networks).2.exchanged.map (·.1.isSubmission))) =
        some (some "H", [false, false, false, true]) := by
    decide +kernel
  rw [← clusterLoaded] at loaded
  cases done : clusterLoaded with
  | error e =>
      rw [done] at paid
      cases paid
  | ok networks =>
      rw [done] at loaded paid
      obtain ⟨result, submitted⟩ := Prod.mk.inj (Option.some.inj paid)
      obtain ⟨turns, course, follows⟩ := Dialogue.course_run World.answer
        (Faucet.dispatch ⟨networks.chains, networks.tokens⟩ "alice" clusterTransfer).run repeatingWorld
      have exchanged : (paidRun networks).2.exchanged = exchanges turns := exchanged_of_follows follows
      rw [exchanged] at submitted
      have last : true ∈ (exchanges turns).map (·.1.isSubmission) := by
        rw [submitted]
        decide
      obtain ⟨⟨request, outcome⟩, mem, submits⟩ := List.mem_map.1 last
      have submission : (request, outcome) ∈ Network.submissions (exchanges turns) :=
        List.mem_filter.2 ⟨mem, submits⟩
      obtain ⟨credits, -⟩ := dispatch_pays_others loaded course
      obtain ⟨c, account, found, -, -, denoted, credited, other⟩ := credits _ _ submission
      obtain ⟨family, -, -⟩ := Networks.chain_of_load loaded found
      have name : account = .near "carol.testnet" := by
        cases c with
        | evm c => cases family
        | solana c => cases family
        | near c => exact (Option.some.inj denoted).symm
      subst name
      rw [show ((Faucet.dispatch _ _ _).run.run World.answer repeatingWorld).1 = .ok "H" from
        toOption_eq_some_iff.1 result] at course
      exact ⟨loading, networks, turns, request, outcome, c, loaded, course, submission, found, credited,
        other.symm⟩

end Example

end Faucet

end TokenFaucet
