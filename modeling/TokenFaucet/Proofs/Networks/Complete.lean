import TokenFaucet.Proofs.Networks.Verified
import TokenFaucet.Proofs.Registry

set_option autoImplicit false

namespace TokenFaucet

open Dialogue (Course)

namespace Layout

variable {l : Layout}

/-- No two chains of a layout without fault are of one family and have one id. -/
theorem WellFormed.profiles_nodup (formed : l.WellFormed) :
    (l.profiles.map fun d => (d.1, d.2.id)).Nodup := by
  have evm : (l.evm.chains.map fun e => (ChainKind.evm, e.chainId)).Nodup := by
    have ids := formed.chainIds.map (Prod.mk_right_injective ChainKind.evm)
    rwa [List.map_map] at ids
  have solana : (l.solana.toList.map fun c => (ChainKind.solana, c.id)).Nodup := by
    cases l.solana <;> simp
  have near : (l.near.toList.map fun c => (ChainKind.near, c.id)).Nodup := by
    cases l.near <;> simp
  have parts : (l.profiles.map fun d => (d.1, d.2.id)) =
      l.evm.chains.map (fun e => (ChainKind.evm, e.chainId)) ++
        l.solana.toList.map (fun c => (ChainKind.solana, c.id)) ++
        l.near.toList.map (fun c => (ChainKind.near, c.id)) := by
    simp only [profiles, List.map_append, List.map_map]
    rfl
  rw [parts, List.nodup_append', List.nodup_append']
  refine ⟨⟨evm, solana, ?_⟩, near, ?_⟩
  · simp [List.disjoint_left]
  · rintro ⟨kind, id⟩ earlier last
    obtain ⟨c, -, own⟩ := List.mem_map.1 last
    cases own
    simp at earlier

end Layout

namespace Networks

/-- The networks hold what a layout describes: one chain to an entry and one to a cluster, under its
family and id; one token to an entry, under its address in any case; and a signer for just the families
that have chains. -/
structure Complete (l : Layout) (networks : Networks) : Prop where
  chains : (networks.chains.toList.map Chain.described).Perm l.profiles
  chain : ∀ kind profile, (kind, profile) ∈ l.profiles →
    ∃ c, networks.chains.get? kind profile.id = some c ∧ c.described = (kind, profile)
  tokens : ∃ ts, List.Forall₂ (fun e t => Token.StandsFor e t) l.evm.tokens ts ∧
    networks.tokens.toList.Perm ts
  token : ∀ e ∈ l.evm.tokens, ∀ address,
    Text.sameIgnoringAsciiCase address e.address = true →
      ∃ t, networks.tokens.get? address = some t ∧ t.StandsFor e
  signers : ∀ kind, networks.signers.Has kind ↔ ∃ profile, (kind, profile) ∈ l.profiles

variable {l : Layout} {secrets : Secrets} {limit : Nat} {signers : Signers} {b : Built}
  {turns : List Turn} {e : ConfigError}

/-- What was set up from a layout without fault is registered. -/
theorem register_of_wellFormed (formed : l.WellFormed)
    (read : Signers.ofSecrets l secrets = .ok signers) (set : build l signers limit = .ok b) :
    ∃ networks, register l signers b = .ok networks ∧ networks.Complete l := by
  have described := (standsFor_of_build read set).described
  have keys : b.toList.map Chain.key = l.profiles.map fun d => (d.1, d.2.id) := by
    rw [← described, List.map_map]
    rfl
  obtain ⟨chains, inserted, all, found⟩ :=
    ChainRegistry.insertAll_empty_of_nodup (keys ▸ formed.profiles_nodup)
  obtain ⟨tokens, ts, registered, stand, allTokens, foundToken⟩ :=
    buildTokens_of_wellFormed formed.tokens formed.addresses
  refine ⟨⟨signers, chains, tokens⟩, register_eq_ok_iff.2 ⟨rfl, inserted, registered⟩,
    described ▸ all.map _, fun kind profile mem => ?_, ⟨ts, stand, allTokens⟩, foundToken,
    Signers.has_iff_of_ofSecrets read⟩
  rw [← described] at mem
  obtain ⟨c, among, own⟩ := List.mem_map.1 mem
  cases own
  exact ⟨c, found c among, rfl⟩

theorem chain_of_verifyEvm {cs : List EvmChain} (course : Course (verifyEvm cs) turns (.error e)) :
    ∃ why, e = .chain why := by
  induction cs generalizing turns with
  | nil => cases (Dialogue.course_done_iff.1 course).2
  | cons c rest ih =>
      rw [verifyEvm_cons] at course
      obtain ⟨outcome, _, rfl, onward⟩ := Dialogue.course_ask_iff.1 course
      split at onward
      · exact ih onward
      · next why _ =>
        split at onward
        · cases (Dialogue.course_done_iff.1 onward).2
          exact ⟨why, rfl⟩
        · obtain ⟨_, _, rfl, noted⟩ := Dialogue.course_ask_iff.1 onward
          exact ih noted

/-- The check of the nodes fails for a chain. -/
theorem chain_of_verify (course : Course (verify b) turns (.error e)) : ∃ why, e = .chain why := by
  rw [verify_eq] at course
  obtain ⟨r, first, second, rfl, checked, course⟩ := Dialogue.course_andThen_iff.1 course
  cases r with
  | error why =>
      cases (Dialogue.course_done_iff.1 course).2
      exact chain_of_verifyEvm checked
  | ok _ =>
      dsimp only at course
      split at course
      · obtain ⟨_, _, _, -, -, course⟩ := Dialogue.course_andThen_iff.1 course
        cases (Dialogue.course_done_iff.1 course).2
      · cases (Dialogue.course_done_iff.1 course).2

/-- An accepted layout is loaded as a whole, whatever the secrets are and the nodes answer: loading
never fails because something occurs twice in it or because a token is not well described, and when it
succeeds the networks hold everything that the layout describes. -/
theorem complete_of_validate (valid : l.validate = .ok ()) {r : Except ConfigError Networks}
    (course : Course (load l secrets limit) turns r) :
    (∀ e, r = .error e → ¬ e.OfLayout) ∧ ∀ networks, r = .ok networks → networks.Complete l := by
  have formed := Layout.validate_eq_ok_iff.1 valid
  obtain ⟨e, refused, rfl⟩ | ⟨signers, read, ended⟩ := load_cases course
  · refine ⟨?_, nofun⟩
    rintro _ ⟨⟩
    exact Signers.not_ofLayout_of_ofSecrets refused
  obtain ⟨e, refused, rfl⟩ | ⟨b, set, ended⟩ := ended
  · refine ⟨?_, nofun⟩
    obtain ⟨why, rfl⟩ := chain_of_build refused
    rintro _ ⟨⟩ ⟨⟩
  obtain ⟨_, e, checked, rfl⟩ | rfl := ended
  · refine ⟨?_, nofun⟩
    obtain ⟨why, rfl⟩ := chain_of_verify checked
    rintro _ ⟨⟩ ⟨⟩
  · obtain ⟨networks, registered, complete⟩ := register_of_wellFormed formed read set
    rw [registered]
    refine ⟨nofun, ?_⟩
    rintro _ ⟨⟩
    exact complete

section Example

/-- A token in mixed case that lists a chain twice. -/
def mixedToken : Layout.TokenEntry :=
  ⟨"Coin", "COIN", "0x5FbDB2315678afecb367f032d93F642f64180aa3", "ERC20", 6, ["1", "01", "1"]⟩

def tokenLayout : Layout where
  evm := ⟨[firstEntry, secondEntry], [mixedToken], true⟩
  solana := none
  near := none

theorem validate_tokenLayout : tokenLayout.validate = .ok () := by
  have accepted : tokenLayout.validate.toOption = some () := by decide +kernel
  exact toOption_eq_some_iff.1 accepted

/-- The token of the example is loaded, and found in capitals. -/
theorem complete_tokenLayout : ∃ loading networks t,
    tokenLayout.validate = .ok () ∧
      Course (load tokenLayout twiceSecrets 5000) loading (.ok networks) ∧
      networks.tokens.get? "0X5FBDB2315678AFECB367F032D93F642F64180AA3" = some t ∧
      t.StandsFor mixedToken := by
  obtain ⟨signer, read⟩ := ofSecrets_twice
  replace read : Signers.ofSecrets tokenLayout twiceSecrets = .ok ⟨some signer, none, none⟩ := read
  have set : build tokenLayout ⟨some signer, none, none⟩ 5000 = _ := build_twice signer
  obtain ⟨networks, registered, -⟩ :=
    register_of_wellFormed (Layout.validate_eq_ok_iff.1 validate_tokenLayout) read set
  have loads := load_nobodyAnswers read set registered
  obtain ⟨loading, course, -⟩ :=
    Dialogue.course_run nobodyAnswers (load tokenLayout twiceSecrets 5000) ()
  rw [loads] at course
  obtain ⟨-, complete⟩ := complete_of_validate validate_tokenLayout course
  have same : Text.sameIgnoringAsciiCase "0X5FBDB2315678AFECB367F032D93F642F64180AA3"
      mixedToken.address = true := Text.sameIgnoringAsciiCase_iff.2 (by decide +kernel)
  obtain ⟨t, found, own⟩ := (complete networks rfl).token mixedToken (List.mem_cons_self ..) _ same
  exact ⟨loading, networks, t, validate_tokenLayout, course, found, own⟩

end Example

end Networks

end TokenFaucet
