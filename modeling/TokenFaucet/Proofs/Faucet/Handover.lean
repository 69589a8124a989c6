import TokenFaucet.Proofs.Faucet.Dispatch
import TokenFaucet.Proofs.Ledger.Amounts
import TokenFaucet.Proofs.Ledger.Crediting

set_option autoImplicit false

namespace TokenFaucet.Faucet

open Ledger (Call IsPayment Key)

variable {α β : Type}

/-- A program that asks networks only, until it has become one of those. -/
inductive Until (P : Session α → Prop) : Session α → Prop where
  | here {d : Session α} (holds : P d) : Until P d
  | ask {q : Network.Query} {next : q.Answer → Session α} (onward : ∀ r, Until P (next r)) :
      Until P (.ask (.network q) next)

theorem Until.mono {P Q : Session α → Prop} {d : Session α} (until_ : Until P d)
    (weaker : ∀ d, P d → Q d) : Until Q d := by
  induction until_ with
  | here holds => exact .here (weaker _ holds)
  | ask onward ih => exact .ask ih

theorem Until.andThen {P : Session α → Prop} {Q : Session β → Prop} {d : Session α}
    (until_ : Until P d) {g : α → Session β} (onward : ∀ d, P d → Until Q (d.andThen g)) :
    Until Q (d.andThen g) := by
  induction until_ with
  | here holds => exact onward _ holds
  | ask onward ih => exact .ask ih

/-- An attempt that asks networks only and ends well with such a value, or with an error that is not
the ledger's. -/
inductive Ends (Q : α → Prop) : Session (Except FaucetError α) → Prop where
  | ok {a : α} (holds : Q a) : Ends Q (.done (.ok a))
  | error {e : FaucetError} (other : e.category ≠ .storage) : Ends Q (.done (.error e))

/-- One attempt after another. -/
theorem Until.bind {Q : α → Prop} {R : Session (Except FaucetError β) → Prop} {x : Attempt α}
    {g : α → Attempt β} (first : Until (Ends Q) x.run)
    (refused : ∀ e : FaucetError, e.category ≠ .storage → R (.done (.error e)))
    (second : ∀ a, Q a → Until R (g a).run) : Until R (x >>= g).run := by
  rw [Dialogue.run_bind]
  refine first.andThen ?_
  rintro _ (@⟨a, holds⟩ | @⟨e, other⟩)
  · exact second a holds
  · exact .here (refused e other)

theorem until_lift {x : Except FaucetError α} (other : ∀ e, x = .error e → e.category ≠ .storage) :
    Until (Ends fun a => x = .ok a) (liftM x : Attempt α).run := by
  cases x with
  | ok a => exact .here (.ok rfl)
  | error e => exact .here (.error (other e rfl))

theorem until_ofNetwork (program : Network.Session α) :
    Until (fun d => ∃ a, d = .done a) (ofNetwork program) := by
  induction program with
  | done a => exact .here ⟨a, rfl⟩
  | ask q next ih => exact .ask ih

theorem until_onChain (program : Network.Attempt ChainError α) :
    Until (Ends fun _ => True) (onChain program).run := by
  refine (until_ofNetwork program.run).andThen ?_
  rintro _ ⟨r, rfl⟩
  cases r with
  | ok a => exact .here (.ok trivial)
  | error why => exact .here (.error (FaucetError.chain_not_storage why))

/-- The token that a transfer is paid in, as it is registered; none is the native currency. -/
def paidToken (f : Faucet) (t : Transfer) : Option (Option String) :=
  match t.token with
  | none => some none
  | some address => (f.tokens.get? address).map fun token => some token.address

def paidKey (f : Faucet) (userId : String) (t : Transfer) : Option Key := do
  let c ← f.chains.get? t.kind t.chainId
  let token ← f.paidToken t
  return .ofPayment userId c.id c.kind token

/-- A credit at the end of a transfer. -/
def crediting (program : Ledger.Session (Except Ledger.Error Ledger.Record)) (id : String) :
    Session (Except FaucetError String) :=
  (ofLedger program).andThen fun outcome =>
    .done ((outcome.mapError FaucetError.ledger).map fun _ => id)

/-- What a transfer comes to that would be credited to that key. -/
inductive ComesTo (key : Option Key) : Session (Except FaucetError String) → Prop where
  | refused {e : FaucetError} (other : e.category ≠ .storage) : ComesTo key (.done (.error e))
  | credits (c : Call) (own : key = some c.key) (payment : IsPayment c.delta) (id : String) :
      ComesTo key (crediting c.program id)

variable {f : Faucet} {c : Chain} {t : Transfer}

theorem until_resolveAsset (f : Faucet) (c : Chain) (t : Transfer) :
    Until (Ends fun asset : Asset => f.paidToken t = some asset.token) (f.resolveAsset c t).run := by
  unfold resolveAsset paidToken
  cases t.token with
  | none =>
      by_cases named : c.profile.nativeToken = t.symbol
      · rw [if_neg (not_not_intro named)]
        exact .here (.ok rfl)
      · rw [if_pos named]
        exact .here (@Ends.error _ _ (.symbolNotOffered t.symbol c.id) (by simp [FaucetError.category]))
  | some address =>
      refine (until_lift fun e refused => by simp [tokenOn_category refused]).bind (fun e => Ends.error) ?_
      intro token offered
      obtain ⟨registered, -, -⟩ := tokenOn_eq_ok offered
      refine (until_onChain (c.tokenSymbol token.address)).bind (fun e => Ends.error) ?_
      intro symbol _
      by_cases same : symbol = t.symbol
      · rw [if_neg (not_not_intro same)]
        exact .here (.ok (congrArg (Option.map fun token => some token.address) registered))
      · rw [if_pos same]
        exact .here (@Ends.error _ _ (.otherSymbol t.symbol token.address) (by simp [FaucetError.category]))

theorem until_checkFunds (c : Chain) (asset : Asset) (amount : MinorUnits) :
    Until (Ends fun _ => True) (checkFunds c asset amount).run := by
  unfold checkFunds
  refine (until_onChain (c.balance c.signerAddress asset.token)).bind (fun e => Ends.error) ?_
  intro balance _
  by_cases short : balance.le amount = true
  · rw [if_pos short]
    exact .here (@Ends.error _ _ (.insufficientBalance c.kind c.id) (by simp [FaucetError.category]))
  · rw [if_neg short]
    exact .here (.ok trivial)

/-- The end of a transfer: what follows the id of its transaction. -/
theorem run_recordPayment (userId : String) (c : Chain) (asset : Asset) (amount : MinorUnits)
    (id : String) :
    (do recordPayment userId c asset amount; return id : Attempt String).run =
      crediting (Ledger.credit (.ofPayment userId c.id c.kind asset.token)
        (amount.toHuman asset.decimals)) id := by
  have recorded : (recordPayment userId c asset amount).run =
      (ofLedger (Ledger.credit (.ofPayment userId c.id c.kind asset.token)
        (amount.toHuman asset.decimals))).andThen fun outcome =>
          .done ((outcome.mapError FaucetError.ledger).map fun _ => ()) := by
    unfold recordPayment
    rw [Dialogue.run_bind]
    change ((ofLedger _).andThen _).andThen _ = _
    rw [Dialogue.andThen_assoc]
    congr 1
    funext outcome
    cases outcome <;> rfl
  rw [Dialogue.run_bind, recorded, Dialogue.andThen_assoc]
  unfold crediting
  congr 1
  funext outcome
  cases outcome <;> rfl

/-- A transfer is refused, or it hands the payment over to the ledger. -/
theorem until_dispatch (f : Faucet) (userId : String) (t : Transfer) :
    Until (ComesTo (f.paidKey userId t)) (f.dispatch userId t).run := by
  unfold dispatch
  refine (until_lift fun e refused => by simp [badAmount_category refused]).bind (fun e => ComesTo.refused) ?_
  intro amount read
  have pos := parseTransfer_pos (mapError_eq_ok_iff.1 read)
  refine (until_lift fun e refused => by simp [chainOf_category refused]).bind (fun e => ComesTo.refused) ?_
  intro c found
  refine (until_lift fun e refused => by simp [checkReceiver_category refused]).bind (fun e => ComesTo.refused) ?_
  intro _ _
  refine (until_resolveAsset f c t).bind (fun e => ComesTo.refused) ?_
  intro asset paid
  refine (until_checkFunds c asset amount).bind (fun e => ComesTo.refused) ?_
  intro _ _
  refine (until_onChain (c.send t.receiver amount asset.token)).bind (fun e => ComesTo.refused) ?_
  intro id _
  rw [run_recordPayment]
  have key : f.paidKey userId t = some (.ofPayment userId c.id c.kind asset.token) := by
    rw [paidKey, chainOf_eq_ok_iff.1 found, paid]
    rfl
  exact .here (.credits ⟨_, _⟩ key (Ledger.isPayment_toHuman pos asset.decimals) id)

end TokenFaucet.Faucet
