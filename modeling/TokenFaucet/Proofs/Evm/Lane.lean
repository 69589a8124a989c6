import TokenFaucet.Proofs.Dialogue.Turns
import TokenFaucet.Proofs.Evm.Answers
import TokenFaucet.Proofs.Evm.Transaction

set_option autoImplicit false

attribute [local instance (2000)] instPowNat

namespace TokenFaucet.EvmChain

open Dialogue (Leads)
open Network (Attempt Outcome Query Request Session Turn inquire)

def submitted? (request : Request) : Option Bytes :=
  match request.payload with
  | .call "eth_sendRawTransaction" (some (.array [.string text])) =>
      (Bytes.Hex.decode text).toOption
  | _ => none

theorem submitted?_submissionRequest (c : EvmChain) (t : Evm.Transaction) :
    submitted? (c.submissionRequest t) = some (t.signed c.signer.key) := by
  change (Bytes.Hex.decode ("0x" ++ Bytes.Hex.encode (t.signed c.signer.key))).toOption = _
  rw [Bytes.Hex.decode_encode]
  rfl

/-- The lane of a chain, and the transactions that its node has accepted. -/
structure Site where
  taken : Bool
  accepted : List Bytes

/-- Nobody holds the lane, and nothing has been accepted. -/
def Site.start : Site := ⟨false, []⟩

/-- What the lane and the node allow. The lane has one holder. The node answers every request: it
reports how many transactions of the signer it knows, `first` of them from before, and it accepts a
transaction if and only if its nonce is that number. -/
inductive Allows (c : EvmChain) (first : Nat) : (q : Query) → Site → q.Answer → Site → Prop where
  | acquire {site : Site} (free : site.taken = false) :
      Allows c first (.acquire c.client.name) site () ⟨true, site.accepted⟩
  | release {site : Site} :
      Allows c first (.release c.client.name) site () ⟨false, site.accepted⟩
  | count {site : Site} {request : Request} {outcome : Outcome} (asked : request = c.countRequest)
      (reports : c.countAnswer outcome = .ok (first + site.accepted.length)) :
      Allows c first (.exchange request) site outcome site
  | price {site : Site} {request : Request} {outcome : Outcome} {price : Nat}
      (asked : request = c.priceRequest) (reports : c.priceAnswer outcome = .ok price) :
      Allows c first (.exchange request) site outcome site
  | estimate {site : Site} {request : Request} {outcome : Outcome} {receiver : Evm.Address}
      {amount : MinorUnits} {token : Option Evm.Address} {estimate : Nat}
      (asked : request = c.estimateRequest receiver amount token)
      (reports : c.estimateAnswer outcome = .ok estimate) :
      Allows c first (.exchange request) site outcome site
  | accept {site : Site} {request : Request} {outcome : Outcome} {raw : Bytes} {id : String}
      (submits : submitted? request = some raw)
      (next : Evm.nonceOf? raw = some (first + site.accepted.length))
      (named : c.submissionAnswer outcome = .ok id) :
      Allows c first (.exchange request) site outcome ⟨site.taken, site.accepted ++ [raw]⟩
  | refuse {site : Site} {request : Request} {outcome : Outcome} {raw : Bytes} {why : ChainError}
      (submits : submitted? request = some raw)
      (other : Evm.nonceOf? raw ≠ some (first + site.accepted.length))
      (refused : c.submissionAnswer outcome = .error why) :
      Allows c first (.exchange request) site outcome site

section Allowed

variable {c : EvmChain} {first : Nat} {site site' : Site} {outcome : Outcome}

def method (request : Request) : String :=
  match request.payload with
  | .call method _ => method
  | .identify _ => ""

theorem method_of_submitted {request : Request} {raw : Bytes}
    (submits : submitted? request = some raw) : method request = "eth_sendRawTransaction" := by
  unfold submitted? at submits
  unfold method
  split at submits
  · next text same => rw [same]
  · cases submits

theorem allows_acquire {lane : String} {u : Unit}
    (allowed : Allows c first (.acquire lane) site u site') :
    site.taken = false ∧ site' = ⟨true, site.accepted⟩ := by
  cases allowed with
  | acquire free => exact ⟨free, rfl⟩

theorem allows_release {lane : String} {u : Unit}
    (allowed : Allows c first (.release lane) site u site') : site' = ⟨false, site.accepted⟩ := by
  cases allowed with
  | release => rfl

theorem allows_count (allowed : Allows c first (.exchange c.countRequest) site outcome site') :
    c.countAnswer outcome = .ok (first + site.accepted.length) ∧ site' = site := by
  cases allowed with
  | count asked reports => exact ⟨reports, rfl⟩
  | price asked reports =>
      exact absurd (congrArg method asked) (show "eth_getTransactionCount" ≠ "eth_gasPrice" by decide)
  | estimate asked reports =>
      exact absurd (congrArg method asked)
        (show "eth_getTransactionCount" ≠ "eth_estimateGas" by decide)
  | accept submits => exact nomatch submits
  | refuse submits => exact nomatch submits

theorem allows_price (allowed : Allows c first (.exchange c.priceRequest) site outcome site') :
    (∃ price, c.priceAnswer outcome = .ok price) ∧ site' = site := by
  cases allowed with
  | count asked reports =>
      exact absurd (congrArg method asked) (show "eth_gasPrice" ≠ "eth_getTransactionCount" by decide)
  | price asked reports => exact ⟨⟨_, reports⟩, rfl⟩
  | estimate asked reports =>
      exact absurd (congrArg method asked) (show "eth_gasPrice" ≠ "eth_estimateGas" by decide)
  | accept submits => exact nomatch submits
  | refuse submits => exact nomatch submits

theorem allows_estimate {receiver : Evm.Address} {amount : MinorUnits} {token : Option Evm.Address}
    (allowed :
      Allows c first (.exchange (c.estimateRequest receiver amount token)) site outcome site') :
    (∃ estimate, c.estimateAnswer outcome = .ok estimate) ∧ site' = site := by
  cases allowed with
  | count asked reports =>
      exact absurd (congrArg method asked)
        (show "eth_estimateGas" ≠ "eth_getTransactionCount" by decide)
  | price asked reports =>
      exact absurd (congrArg method asked) (show "eth_estimateGas" ≠ "eth_gasPrice" by decide)
  | estimate asked reports => exact ⟨⟨_, reports⟩, rfl⟩
  | accept submits => exact nomatch submits
  | refuse submits => exact nomatch submits

/-- A transaction with the nonce that is due is accepted. -/
theorem allows_submission {t : Evm.Transaction}
    (due : Evm.nonceOf? (t.signed c.signer.key) = some (first + site.accepted.length))
    (allowed : Allows c first (.exchange (c.submissionRequest t)) site outcome site') :
    (∃ id, c.submissionAnswer outcome = .ok id) ∧
      site' = ⟨site.taken, site.accepted ++ [t.signed c.signer.key]⟩ := by
  have raw := c.submitted?_submissionRequest t
  have own := method_of_submitted raw
  cases allowed with
  | count asked reports =>
      rw [asked] at own
      exact absurd own (show "eth_getTransactionCount" ≠ "eth_sendRawTransaction" by decide)
  | price asked reports =>
      rw [asked] at own
      exact absurd own (show "eth_gasPrice" ≠ "eth_sendRawTransaction" by decide)
  | estimate asked reports =>
      rw [asked] at own
      exact absurd own (show "eth_estimateGas" ≠ "eth_sendRawTransaction" by decide)
  | accept submits next named =>
      rw [raw] at submits
      cases submits
      exact ⟨⟨_, named⟩, rfl⟩
  | refuse submits other refused =>
      rw [raw] at submits
      cases submits
      exact absurd due other

end Allowed

/-- The end of a transfer that holds the lane. -/
def leaving (c : EvmChain) (r : Except ChainError String) : Session (Except ChainError String) :=
  .ask (.release c.client.name) fun _ => .done r

/-- What is left of a transfer that holds the lane. -/
def holding (c : EvmChain) (program : Attempt ChainError String) :
    Session (Except ChainError String) :=
  program.run.andThen c.leaving

theorem send_run (c : EvmChain) (serial : c.serializes = true) {receiver : String}
    (amount : MinorUnits) {token : Option String} {account : Evm.Address}
    {contract : Option Evm.Address} (readReceiver : address receiver = .ok account)
    (readToken : tokenAddress token = .ok contract) :
    (c.send receiver amount token).run =
      .ask (.acquire c.client.name) fun _ => c.holding (c.submit account amount contract) := by
  rw [c.send_eq amount readReceiver readToken, if_pos serial]
  rfl

theorem holding_bind (c : EvmChain) {α : Type} (request : Request)
    (read : Outcome → Except ChainError α) (f : α → Attempt ChainError String) :
    c.holding (inquire request read >>= f) = .ask (.exchange request) fun outcome =>
      match read outcome with
      | .ok a => c.holding (f a)
      | .error why => c.leaving (.error why) := by
  unfold holding
  rw [Network.inquire_bind_run, Dialogue.ask_andThen]
  congr 1
  funext outcome
  cases read outcome <;> rfl

theorem holding_inquire (c : EvmChain) (request : Request)
    (read : Outcome → Except ChainError String) :
    c.holding (inquire request read) =
      .ask (.exchange request) fun outcome => c.leaving (read outcome) := rfl

def pricing (c : EvmChain) (receiver : Evm.Address) (amount : MinorUnits)
    (token : Option Evm.Address) (nonce : Nat) : Attempt ChainError String := do
  let gasPrice ← inquire c.priceRequest c.priceAnswer
  let estimate ← inquire (c.estimateRequest receiver amount token) c.estimateAnswer
  inquire (c.submissionRequest (c.transaction receiver amount token nonce gasPrice estimate))
    c.submissionAnswer

/-- A transfer that knows its nonce and the price of gas. -/
def estimating (c : EvmChain) (receiver : Evm.Address) (amount : MinorUnits)
    (token : Option Evm.Address) (nonce gasPrice : Nat) : Attempt ChainError String := do
  let estimate ← inquire (c.estimateRequest receiver amount token) c.estimateAnswer
  inquire (c.submissionRequest (c.transaction receiver amount token nonce gasPrice estimate))
    c.submissionAnswer

theorem brief_leaving (c : EvmChain) (n : Nat) (r : Except ChainError String) :
    Dialogue.Brief (n + 1) (c.leaving r) := by
  intro u
  exact Dialogue.brief_done n r

theorem brief_holding_bind (c : EvmChain) {α : Type} {n : Nat} {request : Request}
    {read : Outcome → Except ChainError α} {f : α → Attempt ChainError String}
    (further : ∀ a, Dialogue.Brief (n + 1) (c.holding (f a))) :
    Dialogue.Brief (n + 2) (c.holding (inquire request read >>= f)) := by
  rw [holding_bind]
  intro outcome
  dsimp only
  split
  · exact further _
  · exact c.brief_leaving n _

/-- A transfer that holds the lane asks four requests at most, and releases the lane. -/
theorem brief_submit (c : EvmChain) (receiver : Evm.Address) (amount : MinorUnits)
    (token : Option Evm.Address) :
    Dialogue.Brief 5 (c.holding (c.submit receiver amount token)) := by
  rw [c.submit_eq]
  apply brief_holding_bind
  intro nonce
  apply brief_holding_bind
  intro gasPrice
  apply brief_holding_bind
  intro estimate
  rw [holding_inquire]
  intro outcome
  exact c.brief_leaving 0 _

theorem length_transferCall_le (receiver : Evm.Address) (amount : MinorUnits)
    (token : Option Evm.Address) : (transferCall receiver amount token).2.2.length ≤ 68 := by
  cases token with
  | none => exact Nat.zero_le _
  | some contract =>
      change (Evm.transferData receiver amount).length ≤ 68
      rw [Evm.transferData, List.length_append, List.length_append, Evm.TokenMethod.addressWord,
        Evm.TokenMethod.amountWord, Bytes.length_bigEndian, Bytes.padLeft, List.length_append,
        List.length_replicate, receiver.length_bytes]
      exact Nat.le_refl _

theorem gasLimit_lt {estimate : Nat} (small : estimate < UInt64.size) (token : Option Evm.Address) :
    gasLimit estimate token < UInt64.size := by
  have pos : 0 < UInt64.size := by decide
  unfold gasLimit
  split <;> omega

theorem sized_transaction (c : EvmChain) (receiver : Evm.Address) (amount : MinorUnits)
    (token : Option Evm.Address) {nonce gasPrice estimate : Nat} (count : nonce < UInt64.size)
    (price : gasPrice < 2 ^ gasPriceBits) (gas : estimate < UInt64.size) :
    (c.transaction receiver amount token nonce gasPrice estimate).Sized where
  nonce := Nat.lt_trans count (by decide)
  gasPrice := Nat.lt_trans price (by decide)
  gasLimit := Nat.lt_trans (gasLimit_lt gas token) (by decide)
  input := Nat.lt_of_le_of_lt (length_transferCall_le receiver amount token) (by decide)

/-- The stages of a transfer that holds the lane while its nonce is due. -/
inductive Stage (c : EvmChain) (nonce : Nat) : Session (Except ChainError String) → Prop where
  | counting (receiver : Evm.Address) (amount : MinorUnits) (token : Option Evm.Address) :
      Stage c nonce (c.holding (c.submit receiver amount token))
  | pricing (receiver : Evm.Address) (amount : MinorUnits) (token : Option Evm.Address)
      (count : nonce < UInt64.size) : Stage c nonce (c.holding (c.pricing receiver amount token nonce))
  | estimating (receiver : Evm.Address) (amount : MinorUnits) (token : Option Evm.Address)
      {gasPrice : Nat} (count : nonce < UInt64.size) (price : gasPrice < 2 ^ gasPriceBits) :
      Stage c nonce (c.holding (c.estimating receiver amount token nonce gasPrice))
  | submitting {t : Evm.Transaction} (sized : t.Sized) (own : t.nonce = nonce) :
      Stage c nonce (c.holding (inquire (c.submissionRequest t) c.submissionAnswer))

/-- What a turn submitted, and how the node answered. -/
def submission? : Turn → Option (Bytes × Outcome)
  | ⟨.exchange request, outcome⟩ => (submitted? request).map (·, outcome)
  | ⟨.acquire _, _⟩ => none
  | ⟨.release _, _⟩ => none

def acquires : Turn → Bool
  | ⟨.acquire _, _⟩ => true
  | ⟨.exchange _, _⟩ => false
  | ⟨.release _, _⟩ => false

/-- What a turn of a transfer leads to: it goes on to another stage and the site stays as it is, or
its transaction has been accepted and only the lane is left to be released. -/
inductive Onward (c : EvmChain) (first : Nat) (site : Site) (turn : Turn)
    (program : Session (Except ChainError String)) (site' : Site) : Prop where
  | next (nothing : submission? turn = none)
      (stage : Stage c (first + site.accepted.length) program) (same : site' = site)
  | last {raw : Bytes} {outcome : Outcome} {id : String}
      (submits : submission? turn = some (raw, outcome))
      (due : Evm.nonceOf? raw = some (first + site.accepted.length))
      (named : c.submissionAnswer outcome = .ok id) (leaves : program = c.leaving (.ok id))
      (grown : site' = ⟨site.taken, site.accepted ++ [raw]⟩)

theorem Stage.step {c : EvmChain} {first : Nat} {site site' : Site}
    {program : Session (Except ChainError String)} {q : Query}
    {next : q.Answer → Session (Except ChainError String)} {r : q.Answer}
    (stage : Stage c (first + site.accepted.length) program) (asks : program = .ask q next)
    (allowed : Allows c first q site r site') :
    acquires ⟨q, r⟩ = false ∧ Onward c first site ⟨q, r⟩ (next r) site' := by
  cases stage with
  | counting receiver amount token =>
      rw [c.submit_eq, holding_bind] at asks
      cases asks
      obtain ⟨reports, same⟩ := allows_count allowed
      refine ⟨rfl, .next rfl ?_ same⟩
      simp only [reports]
      exact .pricing receiver amount token (countAnswer_lt reports)
  | pricing receiver amount token count =>
      rw [EvmChain.pricing, holding_bind] at asks
      cases asks
      obtain ⟨⟨price, reports⟩, same⟩ := allows_price allowed
      refine ⟨rfl, .next rfl ?_ same⟩
      simp only [reports]
      exact .estimating receiver amount token count (priceAnswer_lt reports)
  | @estimating receiver amount token gasPrice count price =>
      rw [EvmChain.estimating, holding_bind] at asks
      cases asks
      obtain ⟨⟨estimate, reports⟩, same⟩ := allows_estimate allowed
      refine ⟨rfl, .next rfl ?_ same⟩
      simp only [reports]
      exact .submitting
        (c.sized_transaction receiver amount token count price (estimateAnswer_lt reports)) rfl
  | @submitting t sized own =>
      rw [holding_inquire] at asks
      cases asks
      have due := Evm.nonceOf?_signed sized c.signer.key
      rw [own] at due
      obtain ⟨⟨id, named⟩, grown⟩ := allows_submission due allowed
      refine ⟨rfl, .last ?_ due named ?_ grown⟩
      · exact congrArg (Option.map _) (c.submitted?_submissionRequest t)
      · exact congrArg c.leaving named

theorem Stage.not_done {c : EvmChain} {nonce : Nat} {program : Session (Except ChainError String)}
    {r : Except ChainError String} (stage : Stage c nonce program) (ended : program = .done r) :
    False := by
  cases stage with
  | counting receiver amount token =>
      rw [c.submit_eq, holding_bind] at ended
      cases ended
  | pricing receiver amount token count =>
      rw [EvmChain.pricing, holding_bind] at ended
      cases ended
  | estimating receiver amount token count price =>
      rw [EvmChain.estimating, holding_bind] at ended
      cases ended
  | submitting sized own =>
      rw [holding_inquire] at ended
      cases ended

/-- A transfer that holds the lane is answered, as long as the count is a word. -/
theorem Stage.goesOn {c : EvmChain} {first : Nat} {site : Site}
    {program : Session (Except ChainError String)}
    (stage : Stage c (first + site.accepted.length) program)
    (room : first + site.accepted.length < UInt64.size) :
    ∃ q next r site', program = .ask q next ∧ Allows c first q site r site' := by
  cases stage with
  | counting receiver amount token =>
      obtain ⟨outcome, reports⟩ := c.exists_countAnswer room
      rw [c.submit_eq, holding_bind]
      exact ⟨.exchange _, _, outcome, site, rfl, .count rfl reports⟩
  | pricing receiver amount token count =>
      obtain ⟨outcome, price, reports⟩ := c.exists_priceAnswer
      rw [EvmChain.pricing, holding_bind]
      exact ⟨.exchange _, _, outcome, site, rfl, .price rfl reports⟩
  | estimating receiver amount token count price =>
      obtain ⟨outcome, estimate, reports⟩ := c.exists_estimateAnswer
      rw [EvmChain.estimating, holding_bind]
      exact ⟨.exchange _, _, outcome, site, rfl, .estimate rfl reports⟩
  | @submitting t sized own =>
      have length : (List.replicate 32 (0 : UInt8)).length = 32 := List.length_replicate
      obtain ⟨outcome, named⟩ := c.exists_submissionAnswer length
      have due := Evm.nonceOf?_signed sized c.signer.key
      rw [own] at due
      exact ⟨.exchange _, _, outcome, _, rfl, .accept (c.submitted?_submissionRequest t) due named⟩

end TokenFaucet.EvmChain
