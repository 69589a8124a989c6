import Mathlib
import TokenFaucet.Proofs.Config.Validation
import TokenFaucet.Proofs.Networks.Loaded
import TokenFaucet.Proofs.Number.Numeral

set_option autoImplicit false

/-!
The EVM chains of loaded networks. Each comes from one entry of the layout, and all pay from one
account. Two of them are written with different ids, endpoints and names, and hold different lanes.
Their ids are compared as they are written: those that differ in a plus sign or in leading zeros are
one number, and then both chains are the same one to a signer.
-/

namespace TokenFaucet

open Dialogue (Course Follows)
open Number

theorem EvmChain.ofProfile_eq_ok_iff {profile : ChainProfile} {signer : EvmSigner} {limit : Nat}
    {serializes : Bool} {c : EvmChain} :
    EvmChain.ofProfile profile signer limit serializes = .ok c ↔
      ∃ n url, Numeral.parse UInt64.size profile.id = .ok n ∧ Url.parse profile.rpc = .ok url ∧
        c = ⟨profile, .ofNat n, ⟨profile.clientName .evm, url, limit, 0⟩, signer, serializes⟩ := by
  constructor
  · intro built
    obtain ⟨n, id, built⟩ := bind_eq_ok_iff.1 built
    obtain ⟨url, endpoint, built⟩ := bind_eq_ok_iff.1 built
    cases built
    exact ⟨n, url, mapError_eq_ok_iff.1 id, mapError_eq_ok_iff.1 endpoint, rfl⟩
  · rintro ⟨n, url, id, endpoint, rfl⟩
    refine bind_eq_ok_iff.2 ⟨n, mapError_eq_ok_iff.2 id, ?_⟩
    exact bind_eq_ok_iff.2 ⟨url, mapError_eq_ok_iff.2 endpoint, rfl⟩

theorem ChainProfile.clientName_inj {p p' : ChainProfile} {kind : ChainKind} :
    p.clientName kind = p'.clientName kind ↔ p.id = p'.id := by
  unfold ChainProfile.clientName
  exact String.append_right_inj _

namespace Networks

variable {l : Layout} {secrets : Secrets} {limit : Nat} {signers : Signers} {built : Built}
  {loading : List Turn} {networks : Networks}

/-- Every registered chain was set up. -/
theorem mem_built_of_register (registered : register l signers built = .ok networks) {c : Chain}
    (mem : c ∈ networks.chains.toList) : networks.signers = signers ∧ c ∈ built.toList := by
  obtain ⟨same, inserted, -⟩ := register_eq_ok_iff.1 registered
  have holds : networks.chains.Holds (· ∈ built.toList) :=
    ChainRegistry.holds_empty.insertAll (fun c mem => mem) inserted
  exact ⟨same, holds.of_mem mem⟩

/-- Every EVM chain of loaded networks was set up from an entry of the layout, with one signer. -/
theorem entry_of_load (loaded : Course (load l secrets limit) loading (.ok networks)) {c : EvmChain}
    (mem : .evm c ∈ networks.chains.toList) :
    ∃ signer, networks.signers.evm = some signer ∧ ∃ e ∈ l.evm.chains,
      EvmChain.ofProfile (entryProfile e) signer limit l.evm.serializeSubmissions = .ok c := by
  obtain ⟨signers, built, -, set, registered⟩ := registered_of_load loaded
  obtain ⟨same, among⟩ := mem_built_of_register registered mem
  rw [build_eq] at set
  obtain ⟨evm, ofEvm, set⟩ := bind_eq_ok_iff.1 set
  obtain ⟨solana, -, set⟩ := bind_eq_ok_iff.1 set
  obtain ⟨near, -, set⟩ := bind_eq_ok_iff.1 set
  cases set
  replace among : c ∈ evm := by simpa [Built.toList] using among
  rw [evmChains] at ofEvm
  split at ofEvm
  · next signer given => exact ⟨signer, same ▸ given, entry_of_buildEvm ofEvm c among⟩
  · cases ofEvm
    cases among

/-- Two EVM chains of networks that were loaded from a checked layout pay from one account and hold
different lanes, and their entries share neither the endpoint nor the name. They have the same id, and
so sign for the same chain, if and only if their ids have the same significant digits; ids and
endpoints that are written in their normal forms are different. -/
theorem evmChains_apart {text : String} (parsed : Layout.parse text = .ok l)
    (loaded : Course (load l secrets limit) loading (.ok networks)) {c c' : EvmChain}
    (mem : .evm c ∈ networks.chains.toList) (mem' : .evm c' ∈ networks.chains.toList)
    (other : c ≠ c') :
    c.signer = c'.signer ∧ c.client.name ≠ c'.client.name ∧ c.profile.rpc ≠ c'.profile.rpc ∧
      c.profile.name ≠ c'.profile.name ∧
      (c.chainId = c'.chainId ↔
        Numeral.significant c.profile.id = Numeral.significant c'.profile.id) ∧
      (c.profile.id = toString c.chainId.toNat → c'.profile.id = toString c'.chainId.toNat →
        c.chainId ≠ c'.chainId) ∧
      (c.profile.rpc = c.client.url.text → c'.profile.rpc = c'.client.url.text →
        c.client.url ≠ c'.client.url) := by
  obtain ⟨signer, given, e, entry, set⟩ := entry_of_load loaded mem
  obtain ⟨signer', given', e', entry', set'⟩ := entry_of_load loaded mem'
  obtain rfl : signer = signer' := Option.some.inj (given.symm.trans given')
  -- one entry would have set up one chain, so there are two, and the checks kept them apart
  have apart : e.Apart e' := by
    apply Layout.apart_of_parse parsed entry entry'
    rintro rfl
    exact other (Except.ok.inj (set.symm.trans set'))
  obtain ⟨n, url, id, endpoint, rfl⟩ := EvmChain.ofProfile_eq_ok_iff.1 set
  obtain ⟨m, url', id', endpoint', rfl⟩ := EvmChain.ofProfile_eq_ok_iff.1 set'
  have chainId : UInt64.ofNat n = UInt64.ofNat m ↔ n = m := by
    constructor
    · intro same
      have fits := Numeral.parse_lt (by decide) id
      have fits' := Numeral.parse_lt (by decide) id'
      rw [← UInt64.toNat_ofNat_of_lt' fits, same, UInt64.toNat_ofNat_of_lt' fits']
    · rintro rfl
      rfl
  refine ⟨rfl, fun same => apart.chainId (ChainProfile.clientName_inj.1 same), apart.rpc, apart.name,
    chainId.trans (Numeral.parse_inj (by decide) id id'), ?_, ?_⟩
  · intro plain plain' same
    apply apart.chainId
    calc e.chainId = toString (UInt64.ofNat n).toNat := plain
      _ = toString (UInt64.ofNat m).toNat := congrArg (fun id => toString id.toNat) same
      _ = e'.chainId := plain'.symm
  · intro normal normal' same
    apply apart.rpc
    calc e.rpc = url.text := normal
      _ = url'.text := congrArg Url.text same
      _ = e'.rpc := normal'.symm

section Example

/-- Two entries of one chain at one node: the second has a zero before its id and a slash behind its
endpoint. -/
def twiceText : String :=
  "\x7b\"evm\":\x7b\"chains\":[" ++
    "\x7b\"chain_id\":\"1\",\"name\":\"First\",\"rpc\":\"http://node\"," ++
      "\"native_token\":\"ETH\",\"decimals\":18\x7d," ++
    "\x7b\"chain_id\":\"01\",\"name\":\"Second\",\"rpc\":\"http://node/\"," ++
      "\"native_token\":\"ETH\",\"decimals\":18\x7d]\x7d\x7d"

def firstEntry : Layout.ChainEntry :=
  ⟨"1", "First", "http://node", "ETH", 18⟩

def secondEntry : Layout.ChainEntry :=
  ⟨"01", "Second", "http://node/", "ETH", 18⟩

def twiceLayout : Layout where
  evm := ⟨[firstEntry, secondEntry], [], true⟩
  solana := none
  near := none

def twiceSecrets : Secrets where
  evmKey := some "0000000000000000000000000000000000000000000000000000000000000001"
  solanaKey := none
  nearAccount := none
  nearKey := none

def nodeUrl : Url :=
  ⟨"http", .server "" "" (.domain "node") none, "/", none, none⟩

def twiceChain (signer : EvmSigner) (e : Layout.ChainEntry) : EvmChain :=
  ⟨entryProfile e, 1, ⟨(entryProfile e).clientName .evm, nodeUrl, 5000, 0⟩, signer, true⟩

theorem parse_twiceText : Layout.parse twiceText = .ok twiceLayout := by
  have parsed : (Layout.parse twiceText).toOption = some twiceLayout := by
    decide +kernel
  exact toOption_eq_some_iff.1 parsed

theorem ofSecrets_twice :
    ∃ signer, Signers.ofSecrets twiceLayout twiceSecrets = .ok ⟨some signer, none, none⟩ := by
  have readable : (EvmSigner.parse
      "0000000000000000000000000000000000000000000000000000000000000001").toOption.isSome = true := by
    decide +kernel
  obtain ⟨signer, read⟩ := Option.isSome_iff_exists.1 readable
  have own : Signers.evmOf twiceLayout twiceSecrets = .ok (some signer) :=
    bind_eq_ok_iff.2 ⟨signer, mapError_eq_ok_iff.2 (toOption_eq_some_iff.1 read), rfl⟩
  exact ⟨signer, bind_eq_ok_iff.2 ⟨some signer, own, rfl⟩⟩

theorem build_twice (signer : EvmSigner) :
    build twiceLayout ⟨some signer, none, none⟩ 5000 =
      .ok ⟨[twiceChain signer firstEntry, twiceChain signer secondEntry], none, none⟩ := by
  have url : Url.parse "http://node" = .ok nodeUrl := by cbv
  have url' : Url.parse "http://node/" = .ok nodeUrl := by cbv
  have first : EvmChain.ofProfile (entryProfile firstEntry) signer 5000 true =
      .ok (twiceChain signer firstEntry) :=
    EvmChain.ofProfile_eq_ok_iff.2 ⟨1, nodeUrl, rfl, url, rfl⟩
  have second : EvmChain.ofProfile (entryProfile secondEntry) signer 5000 true =
      .ok (twiceChain signer secondEntry) :=
    EvmChain.ofProfile_eq_ok_iff.2 ⟨1, nodeUrl, rfl, url', rfl⟩
  have set : evmChains twiceLayout ⟨some signer, none, none⟩ 5000 =
      .ok [twiceChain signer firstEntry, twiceChain signer secondEntry] := by
    change buildEvm signer 5000 true [firstEntry, secondEntry] = _
    simp only [buildEvm, first, second]
    rfl
  rw [build_eq, set]
  rfl

def twiceNetworks (signer : EvmSigner) : Networks where
  signers := ⟨some signer, none, none⟩
  chains := ⟨[((.evm, "01"), .evm (twiceChain signer secondEntry)),
    ((.evm, "1"), .evm (twiceChain signer firstEntry))]⟩
  tokens := .empty

/-- The layout is accepted and loaded. -/
theorem load_twice : ∃ signer,
    ((load twiceLayout twiceSecrets 5000).run nobodyAnswers ()).1 = .ok (twiceNetworks signer) := by
  obtain ⟨signer, read⟩ := ofSecrets_twice
  have registered : register twiceLayout ⟨some signer, none, none⟩
      ⟨[twiceChain signer firstEntry, twiceChain signer secondEntry], none, none⟩ =
        .ok (twiceNetworks signer) := by
    have first : ChainRegistry.empty.insert (.evm (twiceChain signer firstEntry)) =
        .ok ⟨[((.evm, "1"), .evm (twiceChain signer firstEntry))]⟩ := rfl
    have second : ChainRegistry.insert ⟨[((.evm, "1"), .evm (twiceChain signer firstEntry))]⟩
        (.evm (twiceChain signer secondEntry)) = .ok (twiceNetworks signer).chains := by
      have earlier : ChainRegistry.before (.evm, "01") (.evm, "1") = true := by decide
      unfold ChainRegistry.insert
      change Except.ok (ChainRegistry.mk (Table.put _ (.evm, "01") _ _)) = _
      rw [Table.put, if_pos earlier]
      rfl
    have all : ChainRegistry.empty.insertAll
        [.evm (twiceChain signer firstEntry), .evm (twiceChain signer secondEntry)] =
          .ok (twiceNetworks signer).chains := by
      simp only [ChainRegistry.insertAll, first, second, Bind.bind, Except.bind]
    exact register_eq_ok_iff.2 ⟨rfl, all, rfl⟩
  exact ⟨signer, load_nobodyAnswers read (build_twice signer) registered⟩

theorem lanes_twice (signer : EvmSigner) :
    (twiceChain signer firstEntry).client.name ≠ (twiceChain signer secondEntry).client.name := by
  intro same
  have written : firstEntry.chainId = secondEntry.chainId := ChainProfile.clientName_inj.1 same
  exact absurd written (by decide)

/-- Two chains of a layout that passed all checks sign for one chain id and send to one endpoint, with
one signer, but each holds a lane of its own. -/
theorem one_chain_loaded_twice : ∃ l loading networks c c',
    Layout.parse twiceText = .ok l ∧
      Course (load l twiceSecrets 5000) loading (.ok networks) ∧ Follows nobodyAnswers () loading () ∧
      .evm c ∈ networks.chains.toList ∧ .evm c' ∈ networks.chains.toList ∧ c ≠ c' ∧
      c.chainId = c'.chainId ∧ c.client.url = c'.client.url ∧ c.signer = c'.signer ∧
      c.client.name ≠ c'.client.name := by
  obtain ⟨signer, loads⟩ := load_twice
  obtain ⟨loading, course, follows⟩ :=
    Dialogue.course_run nobodyAnswers (load twiceLayout twiceSecrets 5000) ()
  rw [loads] at course
  have lanes := lanes_twice signer
  refine ⟨twiceLayout, loading, twiceNetworks signer, twiceChain signer firstEntry,
    twiceChain signer secondEntry, parse_twiceText, course, follows, ?_, ?_, ?_, rfl, rfl, rfl, lanes⟩
  · exact List.mem_cons_of_mem _ (List.mem_cons_self ..)
  · exact List.mem_cons_self ..
  · intro same
    exact lanes (congrArg (·.client.name) same)

/-- The two chains of the example differ as far as any two chains do. -/
theorem evmChains_apart_twice : ∃ signer loading,
    Layout.parse twiceText = .ok twiceLayout ∧
      Course (load twiceLayout twiceSecrets 5000) loading (.ok (twiceNetworks signer)) ∧
      twiceChain signer firstEntry ≠ twiceChain signer secondEntry ∧
      Numeral.significant "1" = Numeral.significant "01" := by
  obtain ⟨signer, loads⟩ := load_twice
  obtain ⟨loading, course, -⟩ :=
    Dialogue.course_run nobodyAnswers (load twiceLayout twiceSecrets 5000) ()
  rw [loads] at course
  have other : twiceChain signer firstEntry ≠ twiceChain signer secondEntry := by
    intro same
    exact lanes_twice signer (congrArg (·.client.name) same)
  obtain ⟨-, -, -, -, same, -⟩ := evmChains_apart parse_twiceText course
    (List.mem_cons_of_mem _ (List.mem_cons_self ..)) (List.mem_cons_self ..) other
  exact ⟨signer, loading, parse_twiceText, course, other, same.1 rfl⟩

end Example

end Networks

end TokenFaucet
