import TokenFaucet.Faucet.Inventory
import TokenFaucet.Proofs.Chain.Understood
import TokenFaucet.Proofs.Config.Faults
import TokenFaucet.Proofs.Curve.Ed25519
import TokenFaucet.Proofs.Faucet.FailFast

set_option autoImplicit false

namespace TokenFaucet

open Dialogue (Course FailsOnly)

/-- The account that a chain pays from is an account of it. -/
theorem Chain.reads_signerAddress {c : Chain} {signers : Signers} (named : signers.Named)
    (signed : c.SignedBy signers) : c.Reads c.signerAddress := by
  cases c with
  | evm c => exact ⟨_, c.address_signer⟩
  | solana c =>
      refine ⟨⟨c.signer.publicKey, c.signer.key.length_publicKey⟩, ?_⟩
      exact Solana.Address.parse?_eq_some_iff.2 rfl
  | near c => exact named.near c.signer signed

namespace FaucetError

/-- The error is none of a chain that finds fault with an address or with its own kind. -/
def Understood (e : FaucetError) : Prop :=
  ∀ why, e = .chain why → why.Understood

theorem understood_chain {why : ChainError} (understood : why.Understood) :
    (chain why).Understood := by
  rintro _ ⟨⟩
  exact understood

theorem understood_of_notFound {e : FaucetError} (is : e.category = .notFound) : e.Understood := by
  rintro why rfl
  rw [category] at is
  split at is <;> cases is

end FaucetError

namespace Faucet

variable {α : Type} {f : Faucet} {c : Chain} {t : Transfer} {asset : Asset}
  {contract : Option Evm.Address}

/-- Whatever is registered can be used: chains that are found as EVM chains are, and the addresses of
tokens are read as accounts. -/
structure Legible (f : Faucet) : Prop where
  chain : ∀ {id c}, f.chains.get? .evm id = some c → c.kind = .evm
  token : ∀ token ∈ f.tokens.toList, ∃ account, EvmChain.address token.address = .ok account

theorem understood_onChain {program : Network.Attempt ChainError α}
    (understood : FailsOnly ChainError.Understood program) :
    FailsOnly FaucetError.Understood (onChain program) :=
  failsOnly_onChain_iff.2 fun turns why failed =>
    FaucetError.understood_chain (understood turns why failed)

theorem understood_checkReceiver {address : String} {e : FaucetError}
    (refused : checkReceiver c address = .error e) : e.Understood := by
  unfold checkReceiver at refused
  split at refused
  · cases refused
    exact nofun
  · split at refused <;> cases refused
    exact nofun

theorem understood_resolveAsset (legible : f.Legible) (c : Chain) (t : Transfer) :
    FailsOnly FaucetError.Understood (f.resolveAsset c t) := by
  unfold resolveAsset
  split
  · split
    · exact Dialogue.failsOnly_throw nofun
    · exact Dialogue.failsOnly_pure _
  · refine FailsOnly.check (fun _ refused => ?_) fun token offered => ?_
    · exact FaucetError.understood_of_notFound (tokenOn_category refused)
    · obtain ⟨registered, family, -⟩ := tokenOn_eq_ok offered
      obtain ⟨account, read⟩ := legible.token token (TokenRegistry.mem_of_get? registered)
      refine (understood_onChain (Chain.understood_tokenSymbol family read)).bind fun symbol => ?_
      split
      · exact Dialogue.failsOnly_throw nofun
      · exact Dialogue.failsOnly_pure _

/-- The token of an asset that is offered is read as an account. -/
theorem Offered.read_token {asked : List Network.Turn} (legible : f.Legible)
    (offered : Offered f c t asked asset) :
    ∃ contract, EvmChain.tokenAddress asset.token = .ok contract := by
  cases offered with
  | native => exact ⟨none, rfl⟩
  | token _ registered =>
      obtain ⟨account, read⟩ := legible.token _ (TokenRegistry.mem_of_get? registered)
      exact ⟨some account, map_eq_ok_iff.2 ⟨account, read, rfl⟩⟩

theorem understood_checkFunds (read : EvmChain.tokenAddress asset.token = .ok contract)
    (amount : MinorUnits) : FailsOnly FaucetError.Understood (checkFunds c asset amount) := by
  refine (understood_onChain (c.understood_balance read)).bind fun balance => ?_
  split
  · exact Dialogue.failsOnly_throw nofun
  · exact Dialogue.failsOnly_pure _

theorem understood_recordPayment (userId : String) (c : Chain) (asset : Asset)
    (amount : MinorUnits) :
    FailsOnly FaucetError.Understood (recordPayment userId c asset amount) :=
  (failsOnly_onLedger_of (fun _ => nofun) _).bind fun _ => Dialogue.failsOnly_pure ()

theorem understood_dispatch (legible : f.Legible) (userId : String) (t : Transfer) :
    FailsOnly FaucetError.Understood (f.dispatch userId t) := by
  refine .check (fun e refused => ?_) fun amount _ => ?_
  · obtain ⟨why, -, rfl⟩ := mapError_eq_error_iff.1 refused
    exact nofun
  refine .check (fun e refused => ?_) fun c _ => ?_
  · exact FaucetError.understood_of_notFound (chainOf_category refused)
  refine .check (fun e refused => understood_checkReceiver refused) fun _ accepted => ?_
  have receivable := (checkReceiver_eq_ok_iff.1 accepted).1
  refine (understood_resolveAsset legible c t).bind_course fun turns asset resolved => ?_
  obtain ⟨_, offered⟩ := offered_of_resolveAsset resolved
  obtain ⟨contract, read⟩ := offered.read_token legible
  refine (understood_checkFunds read amount).bind fun _ => ?_
  have sends := c.understood_send amount (Chain.reads_of_isReceiver receivable) read
  refine (understood_onChain sends).bind fun id => ?_
  exact (understood_recordPayment userId c asset amount).bind fun _ => Dialogue.failsOnly_pure id

theorem understood_chainInfos (cs : List Chain) :
    FailsOnly FaucetError.Understood (chainInfos cs) := by
  induction cs with
  | nil => exact Dialogue.failsOnly_pure []
  | cons c rest ih =>
      have funds : FailsOnly ChainError.Understood (c.balance c.signerAddress none) :=
        c.understood_balance rfl
      have info : FailsOnly FaucetError.Understood (chainInfo c) :=
        (understood_onChain funds).bind fun _ => Dialogue.failsOnly_pure _
      exact info.bind fun _ => ih.bind fun _ => Dialogue.failsOnly_pure _

theorem understood_tokenInfo {token : Token} {account : Evm.Address} (family : c.kind = .evm)
    (read : EvmChain.address token.address = .ok account) :
    FailsOnly FaucetError.Understood (tokenInfo token c) := by
  have funds : FailsOnly ChainError.Understood (c.balance c.signerAddress (some token.address)) :=
    c.understood_balance (map_eq_ok_iff.2 ⟨account, read, rfl⟩)
  have decimals := Chain.understood_tokenDecimals family read
  exact (understood_onChain funds).bind fun _ =>
    (understood_onChain decimals).bind fun _ => Dialogue.failsOnly_pure _

theorem understood_tokenInfos {places : List (Token × Chain)}
    (legible : ∀ place ∈ places, place.2.kind = .evm ∧
      ∃ account, EvmChain.address place.1.address = .ok account) :
    FailsOnly FaucetError.Understood (tokenInfos places) := by
  induction places with
  | nil => exact Dialogue.failsOnly_pure []
  | cons place rest ih =>
      obtain ⟨⟨family, account, read⟩, others⟩ := List.forall_mem_cons.1 legible
      exact (understood_tokenInfo family read).bind fun _ =>
        (ih others).bind fun _ => Dialogue.failsOnly_pure _

theorem understood_tokenList (legible : f.Legible) :
    FailsOnly FaucetError.Understood f.tokenList := by
  apply understood_tokenInfos
  intro place mem
  obtain ⟨token, registered, mem⟩ := List.mem_flatMap.1 mem
  obtain ⟨c, found, rfl⟩ := List.mem_map.1 mem
  obtain ⟨id, -, found⟩ := List.mem_filterMap.1 found
  exact ⟨legible.chain found, legible.token token registered⟩

/-- Loaded networks can be used, as far as their layout was checked. -/
theorem legible_of_load {text : String} {l : Layout} {secrets : Secrets} {limit : Nat}
    {loading : List Networks.Turn} {networks : Networks} (parsed : Layout.parse text = .ok l)
    (loaded : Course (Networks.load l secrets limit) loading (.ok networks)) :
    Legible ⟨networks.chains, networks.tokens⟩ where
  chain found := (Networks.chain_of_load loaded found).1
  token token mem := by
    obtain ⟨e, among, own⟩ := Networks.tokenEntry_of_load loaded token mem
    rw [own]
    exact EvmChain.address_of_isValid (Layout.isValid_of_parse parsed among)

/-- A faucet of networks that were loaded from a checked layout, whatever the nodes answer: the account
of every chain, every receiver that is accepted on it and the address of every token are read by the
code that makes requests of them, and neither a transfer nor a listing fails with an error of a chain
that finds fault with an address or does not have the operation. -/
theorem accepted_is_read {text : String} {l : Layout} {secrets : Secrets} {limit : Nat}
    {loading : List Networks.Turn} {networks : Networks} (parsed : Layout.parse text = .ok l)
    (loaded : Course (Networks.load l secrets limit) loading (.ok networks)) :
    let f : Faucet := ⟨networks.chains, networks.tokens⟩
    (∀ c ∈ f.chains.toList, c.Reads c.signerAddress ∧
      ∀ receiver, checkReceiver c receiver = .ok () → c.Reads receiver) ∧
    (∀ token ∈ f.tokens.toList, ∃ account, EvmChain.address token.address = .ok account) ∧
    (∀ userId t, FailsOnly FaucetError.Understood (f.dispatch userId t)) ∧
    FailsOnly FaucetError.Understood f.chainList ∧
    FailsOnly FaucetError.Understood f.tokenList := by
  intro f
  have legible : f.Legible := legible_of_load parsed loaded
  have named := Networks.signers_named_of_load loaded
  refine ⟨fun c mem => ⟨?_, fun receiver accepted => ?_⟩, legible.token,
    fun userId t => understood_dispatch legible userId t, understood_chainInfos _,
    understood_tokenList legible⟩
  · exact Chain.reads_signerAddress named ((Networks.holds_of_load loaded).of_mem mem)
  · exact Chain.reads_of_isReceiver (checkReceiver_eq_ok_iff.1 accepted).1

section Example

/-- A layout with a token whose address is written in capitals, its mark included. -/
def capitalsText : String :=
  "\x7b\"evm\":\x7b\"chains\":[" ++
    "\x7b\"chain_id\":\"1\",\"name\":\"Main\",\"rpc\":\"evm:node\"," ++
      "\"native_token\":\"ETH\",\"decimals\":18\x7d]," ++
    "\"tokens\":[\x7b\"name\":\"Coin\",\"symbol\":\"COIN\",\"type\":\"ERC20\",\"decimals\":6," ++
      "\"address\":\"0XABCDEFABCDEFABCDEFABCDEFABCDEFABCDEFABCD\",\"chains\":[\"1\"]\x7d]\x7d\x7d"

def capitalsLayout : Layout where
  evm := ⟨[⟨"1", "Main", "evm:node", "ETH", 18⟩],
    [⟨"Coin", "COIN", "0XABCDEFABCDEFABCDEFABCDEFABCDEFABCDEFABCD", "ERC20", 6, ["1"]⟩], true⟩
  solana := none
  near := none

def capitalsSecrets : Secrets where
  evmKey := some "0000000000000000000000000000000000000000000000000000000000000001"
  solanaKey := none
  nearAccount := none
  nearKey := none

@[irreducible] def capitalsLoaded : Except ConfigError Networks :=
  ((Networks.load capitalsLayout capitalsSecrets 5000).run Networks.nobodyAnswers ()).1

theorem parse_capitalsText : Layout.parse capitalsText = .ok capitalsLayout := by
  have parsed : (Layout.parse capitalsText).toOption = some capitalsLayout := by
    decide +kernel
  exact toOption_eq_some_iff.1 parsed

theorem load_capitals : ∃ networks, capitalsLoaded = .ok networks ∧
    networks.chains.toList.map Chain.kind = [.evm] ∧
    networks.tokens.toList.map Token.address = ["0xabcdefabcdefabcdefabcdefabcdefabcdefabcd"] := by
  have loads : (capitalsLoaded.toOption.map fun networks =>
      (networks.chains.toList.map Chain.kind, networks.tokens.toList.map Token.address)) =
        some ([.evm], ["0xabcdefabcdefabcdefabcdefabcdefabcdefabcd"]) := by
    decide +kernel
  obtain ⟨networks, loaded, same⟩ := Option.map_eq_some_iff.1 loads
  obtain ⟨kinds, addresses⟩ := Prod.mk.inj same
  exact ⟨networks, toOption_eq_some_iff.1 loaded, kinds, addresses⟩

/-- The address in capitals passes the checks, and is read where requests are made of it. -/
theorem accepted_is_read_capitals : ∃ loading networks c token,
    Layout.parse capitalsText = .ok capitalsLayout ∧
      Course (Networks.load capitalsLayout capitalsSecrets 5000) loading (.ok networks) ∧
      networks.chains.toList = [c] ∧ c.kind = .evm ∧ c.Reads c.signerAddress ∧
      networks.tokens.toList = [token] ∧
      token.address = "0xabcdefabcdefabcdefabcdefabcdefabcdefabcd" ∧
      (∃ account, EvmChain.address token.address = .ok account) ∧
      FailsOnly FaucetError.Understood (tokenList ⟨networks.chains, networks.tokens⟩) := by
  obtain ⟨networks, loaded, kinds, addresses⟩ := load_capitals
  obtain ⟨loading, course, -⟩ := Dialogue.course_run Networks.nobodyAnswers
    (Networks.load capitalsLayout capitalsSecrets 5000) ()
  rw [← capitalsLoaded, loaded] at course
  obtain ⟨c, chains, family⟩ := List.map_eq_singleton_iff.1 kinds
  obtain ⟨token, tokens, address⟩ := List.map_eq_singleton_iff.1 addresses
  obtain ⟨accounts, readable, -, -, lists⟩ := accepted_is_read parse_capitalsText course
  refine ⟨loading, networks, c, token, parse_capitalsText, course, chains, family, ?_, tokens, address,
    ?_, lists⟩
  · exact (accounts c (by simp [chains])).1
  · exact readable token (by simp [tokens])

end Example

end Faucet

end TokenFaucet
