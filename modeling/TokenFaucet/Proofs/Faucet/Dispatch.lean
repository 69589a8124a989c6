import TokenFaucet.Faucet.Transfer
import TokenFaucet.Proofs.Chain.Submission
import TokenFaucet.Proofs.Faucet.World
import TokenFaucet.Proofs.Result

set_option autoImplicit false

namespace TokenFaucet

open Dialogue (Course)
open Network (submissions)

namespace FaucetError

theorem chain_not_storage (why : ChainError) : (chain why).category ≠ .storage := by
  simp only [category]
  split <;> simp

end FaucetError

namespace Faucet

/-- An asset is offered on a chain under the symbol that a transfer asks for: the native currency is
named so, or a registered token of the chain is, by what its contract answers. -/
inductive Offered (f : Faucet) (c : Chain) (t : Transfer) : List Network.Turn → Asset → Prop where
  | native (asksNative : t.token = none) (named : c.profile.nativeToken = t.symbol) :
      Offered f c t [] ⟨none, c.profile.decimals⟩
  | token {address : String} {token : Token} {asked : List Network.Turn}
      (asksToken : t.token = some address) (registered : f.tokens.get? address = some token)
      (family : c.kind = .evm) (hosted : token.isOn c.id = true)
      (named : Course (c.tokenSymbol token.address).run asked (.ok t.symbol)) :
      Offered f c t asked ⟨some token.address, token.decimals⟩

/-- A transfer may be sent: it is well-formed, the asset is offered, and the faucet was told of more
funds than the transfer takes. -/
structure Approved (f : Faucet) (t : Transfer) (asked : List Network.Turn) (c : Chain)
    (asset : Asset) (amount : MinorUnits) : Prop where
  parsed : MinorUnits.parseTransfer t.amount = .ok amount
  positive : 0 < amount.toNat
  found : f.chains.get? t.kind t.chainId = some c
  receivable : c.isReceiver t.receiver = true
  foreign : isSigner c t.receiver = false
  funded : ∃ symbolTurns balanceTurns balance, asked = symbolTurns ++ balanceTurns ∧
    Offered f c t symbolTurns asset ∧
    Course (c.balance c.signerAddress asset.token).run balanceTurns (.ok balance) ∧
    amount.toNat < balance.toNat

variable {f : Faucet} {c : Chain} {t : Transfer} {turns : List Turn}

theorem Offered.quiet {asked : List Network.Turn} {asset : Asset}
    (offered : Offered f c t asked asset) :
    submissions (Network.exchanges asked) = [] := by
  cases offered with
  | native => rfl
  | token _ _ _ _ named => exact c.quiet_tokenSymbol _ _ _ named

/-- Nothing is submitted before a transfer is approved. -/
theorem Approved.quiet {asked : List Network.Turn} {asset : Asset} {amount : MinorUnits}
    (approved : Approved f t asked c asset amount) : submissions (Network.exchanges asked) = [] := by
  obtain ⟨symbolTurns, balanceTurns, balance, rfl, offered, answered, -⟩ := approved.funded
  rw [Network.exchanges_append, Network.submissions_append, offered.quiet,
    c.quiet_balance _ _ _ _ answered]
  rfl

theorem parseTransfer_pos {text : String} {amount : MinorUnits}
    (parsed : MinorUnits.parseTransfer text = .ok amount) : 0 < amount.toNat := by
  unfold MinorUnits.parseTransfer at parsed
  cases read : MinorUnits.parse text with
  | error e =>
      rw [read] at parsed
      cases parsed
  | ok a =>
      rw [read] at parsed
      change (if a.le .zero then Except.error AmountError.notPositive else .ok a) = _ at parsed
      split at parsed
      · cases parsed
      · next positive =>
          cases parsed
          simpa [MinorUnits.le, MinorUnits.zero, Nat.pos_iff_ne_zero] using positive

theorem chainOf_eq_ok_iff : f.chainOf t = .ok c ↔ f.chains.get? t.kind t.chainId = some c := by
  unfold chainOf
  split <;> simp_all

theorem checkReceiver_eq_ok_iff {address : String} :
    checkReceiver c address = .ok () ↔ c.isReceiver address = true ∧ isSigner c address = false := by
  unfold checkReceiver
  cases c.isReceiver address <;> cases isSigner c address <;> simp

theorem chainOf_category {e : FaucetError} (refused : f.chainOf t = .error e) :
    e.category = .notFound := by
  unfold chainOf at refused
  split at refused <;> cases refused
  rfl

theorem checkReceiver_category {address : String} {e : FaucetError}
    (refused : checkReceiver c address = .error e) : e.category = .validation := by
  unfold checkReceiver at refused
  split at refused
  · cases refused
    rfl
  · split at refused <;> cases refused
    rfl

/-- A course that ends early: nothing is submitted and the ledger is not asked. -/
def EndsEarly (turns : List Turn) (e : FaucetError) : Prop :=
  e.category ≠ .storage ∧
    ∃ asked, turns = asked.map Turn.ofNetwork ∧ submissions (Network.exchanges asked) = []

theorem tokenOn_category {address : String} {e : FaucetError}
    (refused : f.tokenOn c address = .error e) : e.category = .notFound := by
  unfold tokenOn at refused
  split at refused
  · split at refused <;> cases refused
    rfl
  · cases refused
    rfl

theorem tokenOn_eq_ok {address : String} {token : Token} (offered : f.tokenOn c address = .ok token) :
    f.tokens.get? address = some token ∧ c.kind = .evm ∧ token.isOn c.id = true := by
  unfold tokenOn at offered
  split at offered
  · next registered =>
      split at offered <;> cases offered
      simp_all
  · cases offered

theorem resolveAsset_course {r : Except FaucetError Asset}
    (course : Course (f.resolveAsset c t).run turns r) :
    (∃ e, r = .error e ∧ EndsEarly turns e) ∨
      ∃ asked asset, turns = asked.map Turn.ofNetwork ∧ r = .ok asset ∧
        Offered f c t asked asset := by
  unfold resolveAsset at course
  split at course
  · next asksNative =>
      by_cases named : c.profile.nativeToken = t.symbol
      · rw [if_neg (not_not_intro named)] at course
        obtain ⟨rfl, rfl⟩ := Dialogue.course_pure_iff.1 course
        exact .inr ⟨[], _, rfl, rfl, .native asksNative named⟩
      · rw [if_pos named] at course
        obtain ⟨rfl, rfl⟩ := Dialogue.course_throw_iff.1 course
        exact .inl ⟨_, rfl, by simp [FaucetError.category], [], rfl, rfl⟩
  · next address asksToken =>
      obtain ⟨e, rfl, refused⟩ | ⟨token, _, second, rfl, offered, asking⟩ :=
        Dialogue.course_bind_iff.1 course
      · obtain ⟨rfl, refusal⟩ := Dialogue.course_lift_iff.1 refused
        exact .inl ⟨e, rfl, by simp [tokenOn_category refusal.symm], [], rfl, rfl⟩
      · obtain ⟨rfl, found⟩ := Dialogue.course_lift_iff.1 offered
        obtain ⟨registered, family, hosted⟩ := tokenOn_eq_ok found.symm
        obtain ⟨e, rfl, failed⟩ | ⟨symbol, _, third, rfl, named, ended⟩ :=
          Dialogue.course_bind_iff.1 asking
        · obtain ⟨asked, outcome, rfl, called, failed⟩ := course_onChain_iff.1 failed
          cases outcome with
          | ok symbol => cases failed
          | error why =>
              cases failed
              exact .inl ⟨_, rfl, FaucetError.chain_not_storage why, asked, rfl,
                c.quiet_tokenSymbol _ _ _ called⟩
        · obtain ⟨asked, outcome, rfl, called, named⟩ := course_onChain_iff.1 named
          cases outcome with
          | error why => cases named
          | ok answered =>
              cases named
              by_cases same : symbol = t.symbol
              · rw [if_neg (not_not_intro same)] at ended
                obtain ⟨rfl, rfl⟩ := Dialogue.course_pure_iff.1 ended
                subst same
                exact .inr ⟨asked, _, by simp, rfl, .token asksToken registered family hosted called⟩
              · rw [if_pos same] at ended
                obtain ⟨rfl, rfl⟩ := Dialogue.course_throw_iff.1 ended
                exact .inl ⟨_, rfl, by simp [FaucetError.category], asked, by simp,
                  c.quiet_tokenSymbol _ _ _ called⟩

theorem checkFunds_course {asset : Asset} {amount : MinorUnits} {r : Except FaucetError Unit}
    (course : Course (checkFunds c asset amount).run turns r) :
    (∃ e, r = .error e ∧ EndsEarly turns e) ∨
      ∃ asked balance, turns = asked.map Turn.ofNetwork ∧ r = .ok () ∧
        Course (c.balance c.signerAddress asset.token).run asked (.ok balance) ∧
        amount.toNat < balance.toNat := by
  unfold checkFunds at course
  obtain ⟨e, rfl, failed⟩ | ⟨balance, _, second, rfl, answered, ended⟩ :=
    Dialogue.course_bind_iff.1 course
  · obtain ⟨asked, outcome, rfl, called, failed⟩ := course_onChain_iff.1 failed
    cases outcome with
    | ok balance => cases failed
    | error why =>
        cases failed
        exact .inl ⟨_, rfl, FaucetError.chain_not_storage why, asked, rfl,
          c.quiet_balance _ _ _ _ called⟩
  · obtain ⟨asked, outcome, rfl, called, answered⟩ := course_onChain_iff.1 answered
    cases outcome with
    | error why => cases answered
    | ok held =>
        cases answered
        by_cases short : balance.le amount = true
        · rw [if_pos short] at ended
          obtain ⟨rfl, rfl⟩ := Dialogue.course_throw_iff.1 ended
          exact .inl ⟨_, rfl, by simp [FaucetError.category], asked, by simp,
            c.quiet_balance _ _ _ _ called⟩
        · rw [if_neg short] at ended
          obtain ⟨rfl, rfl⟩ := Dialogue.course_pure_iff.1 ended
          exact .inr ⟨asked, balance, by simp, rfl, called, by simpa [MinorUnits.le] using short⟩

theorem recordPayment_course {userId : String} {asset : Asset} {amount : MinorUnits}
    {r : Except FaucetError Unit} (course : Course (recordPayment userId c asset amount).run turns r) :
    ∃ asked outcome, turns = asked.map Turn.ofLedger ∧
      Course (Ledger.credit (.ofPayment userId c.id c.kind asset.token)
        (amount.toHuman asset.decimals)) asked outcome ∧
      r = (outcome.mapError FaucetError.ledger).map fun _ => () := by
  unfold recordPayment at course
  obtain ⟨e, rfl, failed⟩ | ⟨row, _, second, rfl, answered, ended⟩ :=
    Dialogue.course_bind_iff.1 course
  · obtain ⟨asked, outcome, rfl, called, failed⟩ := course_onLedger_iff.1 failed
    exact ⟨asked, outcome, rfl, called, by rw [← failed]; rfl⟩
  · obtain ⟨asked, outcome, rfl, called, answered⟩ := course_onLedger_iff.1 answered
    obtain ⟨rfl, rfl⟩ := Dialogue.course_pure_iff.1 ended
    exact ⟨asked, outcome, by simp, called, by rw [← answered]; rfl⟩

/-- What follows the approval of a transfer: sending it fails and the ledger is not asked, or it is
sent and then credited, and the ledger's answer decides the result. -/
inductive Concludes (userId : String) (t : Transfer) (asked : List Network.Turn) (c : Chain)
    (asset : Asset) (amount : MinorUnits) : List Turn → Except FaucetError String → Prop where
  | notSent {sending : List Network.Turn} {why : ChainError}
      (failed : Course (c.send t.receiver amount asset.token).run sending (.error why)) :
      Concludes userId t asked c asset amount ((asked ++ sending).map Turn.ofNetwork)
        (.error (.chain why))
  | sent {sending : List Network.Turn} {id : String}
      {crediting : List (Dialogue.Turn Ledger.Query Ledger.Query.Answer)}
      {outcome : Except Ledger.Error Ledger.Record}
      (sends : Course (c.send t.receiver amount asset.token).run sending (.ok id))
      (credits : Course (Ledger.credit (.ofPayment userId c.id c.kind asset.token)
        (amount.toHuman asset.decimals)) crediting outcome) :
      Concludes userId t asked c asset amount
        ((asked ++ sending).map Turn.ofNetwork ++ crediting.map Turn.ofLedger)
        ((outcome.mapError FaucetError.ledger).map fun _ => id)

/-- What an approved transfer still asks: the submission and then the credit. -/
theorem payment_course {userId : String} {asked : List Network.Turn} {asset : Asset}
    {amount : MinorUnits} {r : Except FaucetError String}
    (course : Course (do
      let id ← onChain (c.send t.receiver amount asset.token)
      recordPayment userId c asset amount
      return id : Attempt String).run turns r) :
    Concludes userId t asked c asset amount (asked.map Turn.ofNetwork ++ turns) r := by
  obtain ⟨e, rfl, failed⟩ | ⟨id, _, rest, rfl, sent, recording⟩ := Dialogue.course_bind_iff.1 course
  · obtain ⟨sending, outcome, rfl, sends, same⟩ := course_onChain_iff.1 failed
    cases outcome with
    | ok id => cases same
    | error why =>
        cases same
        rw [← List.map_append]
        exact .notSent sends
  obtain ⟨sending, outcome, rfl, sends, same⟩ := course_onChain_iff.1 sent
  cases outcome with
  | error why => cases same
  | ok id =>
      cases same
      rw [← List.append_assoc, ← List.map_append]
      obtain ⟨e, rfl, failed⟩ | ⟨_, _, last, rfl, recorded, ended⟩ :=
        Dialogue.course_bind_iff.1 recording
      · obtain ⟨crediting, credited, rfl, credits, same⟩ := recordPayment_course failed
        cases credited with
        | ok row => cases same
        | error why =>
            cases same
            exact .sent sends credits
      · obtain ⟨crediting, credited, rfl, credits, same⟩ := recordPayment_course recorded
        obtain ⟨rfl, rfl⟩ := Dialogue.course_pure_iff.1 ended
        rw [List.append_nil]
        cases credited with
        | error why => cases same
        | ok row => exact .sent sends credits

theorem badAmount_category {text : String} {e : FaucetError}
    (refused : (MinorUnits.parseTransfer text).mapError FaucetError.badAmount = .error e) :
    e.category = .validation := by
  obtain ⟨why, -, rfl⟩ := mapError_eq_error_iff.1 refused
  rfl

/-- Every course of a transfer ends early or goes through an approval. -/
theorem dispatch_course {userId : String} {r : Except FaucetError String}
    (course : Course (f.dispatch userId t).run turns r) :
    (∃ e, r = .error e ∧ EndsEarly turns e) ∨
      ∃ c asset amount asked, Approved f t asked c asset amount ∧
        Concludes userId t asked c asset amount turns r := by
  unfold dispatch at course
  obtain ⟨e, refused, rfl, rfl⟩ | ⟨amount, read, course⟩ := Dialogue.course_lift_bind_iff.1 course
  · exact .inl ⟨e, rfl, by simp [badAmount_category refused], [], rfl, rfl⟩
  have parsed := mapError_eq_ok_iff.1 read
  obtain ⟨e, refused, rfl, rfl⟩ | ⟨c, found, course⟩ := Dialogue.course_lift_bind_iff.1 course
  · exact .inl ⟨e, rfl, by simp [chainOf_category refused], [], rfl, rfl⟩
  obtain ⟨e, refused, rfl, rfl⟩ | ⟨_, checked, course⟩ := Dialogue.course_lift_bind_iff.1 course
  · exact .inl ⟨e, rfl, by simp [checkReceiver_category refused], [], rfl, rfl⟩
  obtain ⟨receivable, foreign⟩ := checkReceiver_eq_ok_iff.1 checked
  obtain ⟨e, rfl, failed⟩ | ⟨asset, _, afterSymbol, rfl, resolved, funding⟩ :=
    Dialogue.course_bind_iff.1 course
  · obtain ⟨_, same, early⟩ | ⟨_, _, _, same, _⟩ := resolveAsset_course failed
    · cases same
      exact .inl ⟨e, rfl, early⟩
    · cases same
  obtain ⟨_, same, _⟩ | ⟨symbolTurns, _, rfl, same, offered⟩ := resolveAsset_course resolved
  · cases same
  cases same
  obtain ⟨e, rfl, failed⟩ | ⟨_, _, afterBalance, rfl, held, paying⟩ :=
    Dialogue.course_bind_iff.1 funding
  · obtain ⟨_, same, other, asked, rfl, quiet⟩ | ⟨_, _, _, same, _⟩ := checkFunds_course failed
    · cases same
      refine .inl ⟨e, rfl, other, symbolTurns ++ asked, by simp, ?_⟩
      rw [Network.exchanges_append, Network.submissions_append, offered.quiet, quiet]
      rfl
    · cases same
  obtain ⟨_, same, _⟩ | ⟨balanceTurns, balance, rfl, -, answered, enough⟩ := checkFunds_course held
  · cases same
  have approved : Approved f t (symbolTurns ++ balanceTurns) c asset amount :=
    { parsed := parsed
      positive := parseTransfer_pos parsed
      found := chainOf_eq_ok_iff.1 found
      receivable := receivable
      foreign := foreign
      funded := ⟨symbolTurns, balanceTurns, balance, rfl, offered, answered, enough⟩ }
  refine .inr ⟨c, asset, amount, _, approved, ?_⟩
  rw [← List.append_assoc, ← List.map_append]
  exact payment_course paying

/-- A transfer that succeeds was approved, sent and credited. -/
theorem dispatch_ok_course {userId : String} {id : String}
    (course : Course (f.dispatch userId t).run turns (.ok id)) :
    ∃ c asset amount asked sending crediting row, Approved f t asked c asset amount ∧
      turns = (asked ++ sending).map Turn.ofNetwork ++ crediting.map Turn.ofLedger ∧
      Course (c.send t.receiver amount asset.token).run sending (.ok id) ∧
      Course (Ledger.credit (.ofPayment userId c.id c.kind asset.token)
        (amount.toHuman asset.decimals)) crediting (.ok row) := by
  obtain ⟨_, failed, _⟩ | ⟨c, asset, amount, asked, approved, concludes⟩ := dispatch_course course
  · cases failed
  generalize result : (Except.ok id : Except FaucetError String) = r at concludes
  cases concludes with
  | notSent => cases result
  | @sent sending id' crediting outcome sends credits =>
      cases outcome with
      | error why => cases result
      | ok row =>
          cases result
          exact ⟨c, asset, amount, asked, sending, crediting, row, approved, rfl, sends, credits⟩

end Faucet

end TokenFaucet
