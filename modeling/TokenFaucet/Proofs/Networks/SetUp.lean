import TokenFaucet.Proofs.Networks.EvmChains

set_option autoImplicit false

namespace TokenFaucet

open Number

/-- The families and profiles of the chains that a layout describes, in its order. -/
def Layout.profiles (l : Layout) : List (ChainKind × ChainProfile) :=
  l.evm.chains.map (fun e => (.evm, Networks.entryProfile e)) ++
    l.solana.toList.map (fun c => (.solana, Networks.clusterProfile .solana c)) ++
    l.near.toList.map (fun c => (.near, Networks.clusterProfile .near c))

/-- A chain and its family. -/
def Chain.described (c : Chain) : ChainKind × ChainProfile :=
  (c.kind, c.profile)

/-- A chain stands for an entry: it is described so, and its id is the number that the entry writes. -/
structure EvmChain.StandsFor (e : Layout.ChainEntry) (c : EvmChain) : Prop where
  profile : c.profile = Networks.entryProfile e
  chainId : Numeral.parse UInt64.size e.chainId = .ok c.chainId.toNat

/-- An error that lies with the content of a layout: what occurs twice in it, and a token that is not
well described. -/
inductive ConfigError.OfLayout : ConfigError → Prop where
  | registry (why : RegistryError) : OfLayout (.registry why)
  | duplicate (what : Layout.Unique) (value : String) : OfLayout (.layout (.duplicate what value))
  | invalidToken (address : String) (why : Layout.TokenFault) :
      OfLayout (.layout (.invalidToken address why))

theorem EvmChain.standsFor_of_ofProfile {e : Layout.ChainEntry} {signer : EvmSigner} {limit : Nat}
    {serializes : Bool} {c : EvmChain}
    (set : EvmChain.ofProfile (Networks.entryProfile e) signer limit serializes = .ok c) :
    c.StandsFor e := by
  obtain ⟨n, url, id, -, rfl⟩ := EvmChain.ofProfile_eq_ok_iff.1 set
  refine ⟨rfl, ?_⟩
  rw [UInt64.toNat_ofNat_of_lt' (Numeral.parse_lt (by decide) id)]
  exact id

theorem SolanaChain.profile_of_ofProfile {profile : ChainProfile} {signer : SolanaSigner}
    {limit : Nat} {c : SolanaChain} (set : SolanaChain.ofProfile profile signer limit = .ok c) :
    c.profile = profile := by
  obtain ⟨_, -, set⟩ := bind_eq_ok_iff.1 set
  cases set
  rfl

theorem NearChain.profile_of_ofProfile {profile : ChainProfile} {signer : NearSigner} {limit : Nat}
    {c : NearChain} (set : NearChain.ofProfile profile signer limit = .ok c) :
    c.profile = profile := by
  obtain ⟨_, -, set⟩ := bind_eq_ok_iff.1 set
  cases set
  rfl

namespace Signers

variable {l : Layout} {secrets : Secrets} {e : ConfigError}

/-- Whether there is a signer for a family. -/
def Has (s : Signers) : ChainKind → Prop
  | .evm => s.evm.isSome
  | .solana => s.solana.isSome
  | .near => s.near.isSome

theorem isSome_of_evmOf {signer : Option EvmSigner} (read : evmOf l secrets = .ok signer) :
    signer.isSome ↔ l.evm.chains ≠ [] := by
  unfold evmOf at read
  split at read
  · next none =>
      cases read
      simp [List.isEmpty_iff.1 none]
  · next some =>
      obtain ⟨_, -, read⟩ := bind_eq_ok_iff.1 read
      obtain ⟨_, -, read⟩ := bind_eq_ok_iff.1 read
      cases read
      simpa using some

theorem isSome_of_solanaOf {signer : Option SolanaSigner}
    (read : solanaOf l secrets = .ok signer) : signer.isSome ↔ l.solana.isSome := by
  unfold solanaOf at read
  split at read
  · next none =>
      cases read
      simpa using none
  · next some =>
      obtain ⟨_, -, read⟩ := bind_eq_ok_iff.1 read
      obtain ⟨_, -, read⟩ := bind_eq_ok_iff.1 read
      cases read
      simpa [Option.isSome_iff_ne_none] using some

theorem isSome_of_nearOf {signer : Option NearSigner} (read : nearOf l secrets = .ok signer) :
    signer.isSome ↔ l.near.isSome := by
  unfold nearOf at read
  split at read
  · next none =>
      cases read
      simpa using none
  · next some =>
      obtain ⟨_, -, read⟩ := bind_eq_ok_iff.1 read
      obtain ⟨_, -, read⟩ := bind_eq_ok_iff.1 read
      obtain ⟨_, -, read⟩ := bind_eq_ok_iff.1 read
      cases read
      simpa [Option.isSome_iff_ne_none] using some

theorem has_iff_of_ofSecrets {signers : Signers} (read : ofSecrets l secrets = .ok signers)
    (kind : ChainKind) : signers.Has kind ↔ ∃ profile, (kind, profile) ∈ l.profiles := by
  obtain ⟨evm, ofEvm, read⟩ := bind_eq_ok_iff.1 read
  obtain ⟨solana, ofSolana, read⟩ := bind_eq_ok_iff.1 read
  obtain ⟨near, ofNear, read⟩ := bind_eq_ok_iff.1 read
  cases read
  cases kind with
  | evm => simp [Has, Layout.profiles, isSome_of_evmOf ofEvm, List.eq_nil_iff_forall_not_mem]
  | solana => simp [Has, Layout.profiles, isSome_of_solanaOf ofSolana, Option.isSome_iff_exists]
  | near => simp [Has, Layout.profiles, isSome_of_nearOf ofNear, Option.isSome_iff_exists]

theorem not_ofLayout_of_need {kind : ChainKind} {name : String} {secret : Option String}
    (refused : need kind name secret = .error e) : ¬ e.OfLayout := by
  cases secret <;> cases refused
  rintro ⟨⟩

theorem not_ofLayout_of_signer {α : Type} {parsed : Except SignerError α}
    (refused : parsed.mapError .signer = .error e) : ¬ e.OfLayout := by
  obtain ⟨why, -, rfl⟩ := mapError_eq_error_iff.1 refused
  rintro ⟨⟩

theorem not_ofLayout_of_evmOf (refused : evmOf l secrets = .error e) : ¬ e.OfLayout := by
  unfold evmOf at refused
  split at refused
  · cases refused
  obtain refused | ⟨_, -, refused⟩ := bind_eq_error_iff.1 refused
  · exact not_ofLayout_of_need refused
  obtain refused | ⟨_, -, refused⟩ := bind_eq_error_iff.1 refused
  · exact not_ofLayout_of_signer refused
  · cases refused

theorem not_ofLayout_of_solanaOf (refused : solanaOf l secrets = .error e) : ¬ e.OfLayout := by
  unfold solanaOf at refused
  split at refused
  · cases refused
  obtain refused | ⟨_, -, refused⟩ := bind_eq_error_iff.1 refused
  · exact not_ofLayout_of_need refused
  obtain refused | ⟨_, -, refused⟩ := bind_eq_error_iff.1 refused
  · exact not_ofLayout_of_signer refused
  · cases refused

theorem not_ofLayout_of_nearOf (refused : nearOf l secrets = .error e) : ¬ e.OfLayout := by
  unfold nearOf at refused
  split at refused
  · cases refused
  obtain refused | ⟨_, -, refused⟩ := bind_eq_error_iff.1 refused
  · exact not_ofLayout_of_need refused
  obtain refused | ⟨_, -, refused⟩ := bind_eq_error_iff.1 refused
  · exact not_ofLayout_of_need refused
  obtain refused | ⟨_, -, refused⟩ := bind_eq_error_iff.1 refused
  · exact not_ofLayout_of_signer refused
  · cases refused

/-- Signers fail for a secret that is missing or that cannot be read. -/
theorem not_ofLayout_of_ofSecrets (refused : ofSecrets l secrets = .error e) : ¬ e.OfLayout := by
  obtain refused | ⟨_, -, refused⟩ := bind_eq_error_iff.1 refused
  · exact not_ofLayout_of_evmOf refused
  obtain refused | ⟨_, -, refused⟩ := bind_eq_error_iff.1 refused
  · exact not_ofLayout_of_solanaOf refused
  obtain refused | ⟨_, -, refused⟩ := bind_eq_error_iff.1 refused
  · exact not_ofLayout_of_nearOf refused
  · cases refused

end Signers

namespace Networks

variable {l : Layout} {secrets : Secrets} {limit : Nat} {signers : Signers} {built : Built}
  {e : ConfigError}

theorem chain_of_buildEvm {signer : EvmSigner} {serializes : Bool}
    {entries : List Layout.ChainEntry}
    (refused : buildEvm signer limit serializes entries = .error e) : ∃ why, e = .chain why := by
  induction entries with
  | nil => cases refused
  | cons entry rest ih =>
      obtain refused | ⟨_, -, refused⟩ := bind_eq_error_iff.1 refused
      · obtain ⟨why, -, rfl⟩ := mapError_eq_error_iff.1 refused
        exact ⟨why, rfl⟩
      obtain refused | ⟨_, -, refused⟩ := bind_eq_error_iff.1 refused
      · exact ih refused
      · cases refused

/-- Every EVM chain that was set up stands for its entry, in the order of the layout. -/
theorem standsFor_of_evmChains {cs : List EvmChain} (read : signers.evm.isSome ↔ l.evm.chains ≠ [])
    (set : evmChains l signers limit = .ok cs) :
    List.Forall₂ (fun e c => c.StandsFor e) l.evm.chains cs := by
  unfold evmChains at set
  split at set
  · exact (buildEvm_eq_ok_iff.1 set).imp fun _ _ => EvmChain.standsFor_of_ofProfile
  · next none =>
      cases set
      have empty : l.evm.chains = [] := by simpa [none] using read
      rw [empty]
      exact .nil

/-- A cluster's chain is set up if the layout has the cluster, since there is a signer for it then. -/
theorem map_profile_eq {α σ : Type} {profile : α → ChainProfile} {kind : ChainKind}
    {cluster? : Option Layout.Cluster} {signer? : Option σ} {c? : Option α}
    (read : signer?.isSome ↔ cluster?.isSome)
    (given : ∀ cluster signer, cluster? = some cluster → signer? = some signer →
      ∃ c, c? = some c ∧ profile c = clusterProfile kind cluster)
    (absent : cluster? = none → c? = none) :
    c?.map profile = cluster?.map (clusterProfile kind) := by
  cases cluster? with
  | none =>
      rw [absent rfl]
      rfl
  | some cluster =>
      obtain ⟨signer, has⟩ := Option.isSome_iff_exists.1 (read.2 rfl)
      obtain ⟨c, rfl, own⟩ := given cluster signer rfl has
      rw [Option.map_some, Option.map_some, own]

theorem profile_of_solanaChain? {c? : Option SolanaChain}
    (read : signers.solana.isSome ↔ l.solana.isSome)
    (set : solanaChain? l signers limit = .ok c?) :
    c?.map (·.profile) = l.solana.map (clusterProfile .solana) := by
  refine map_profile_eq read (fun cluster signer given has => ?_) fun none => ?_
  · rw [solanaChain?, given, has] at set
    obtain ⟨c, own, rfl⟩ := map_eq_ok_iff.1 set
    exact ⟨c, rfl, SolanaChain.profile_of_ofProfile (mapError_eq_ok_iff.1 own)⟩
  · rw [solanaChain?, none] at set
    cases set
    rfl

theorem profile_of_nearChain? {c? : Option NearChain} (read : signers.near.isSome ↔ l.near.isSome)
    (set : nearChain? l signers limit = .ok c?) :
    c?.map (·.profile) = l.near.map (clusterProfile .near) := by
  refine map_profile_eq read (fun cluster signer given has => ?_) fun none => ?_
  · rw [nearChain?, given, has] at set
    obtain ⟨c, own, rfl⟩ := map_eq_ok_iff.1 set
    exact ⟨c, rfl, NearChain.profile_of_ofProfile (mapError_eq_ok_iff.1 own)⟩
  · rw [nearChain?, none] at set
    cases set
    rfl

/-- What was set up is what the layout describes, chain by chain. -/
structure Built.StandsFor (l : Layout) (b : Built) : Prop where
  evm : List.Forall₂ (fun e c => c.StandsFor e) l.evm.chains b.evm
  solana : b.solana.map (·.profile) = l.solana.map (clusterProfile .solana)
  near : b.near.map (·.profile) = l.near.map (clusterProfile .near)

theorem standsFor_of_build (read : Signers.ofSecrets l secrets = .ok signers)
    (set : build l signers limit = .ok built) : built.StandsFor l := by
  obtain ⟨_, ofEvm, read⟩ := bind_eq_ok_iff.1 read
  obtain ⟨_, ofSolana, read⟩ := bind_eq_ok_iff.1 read
  obtain ⟨_, ofNear, read⟩ := bind_eq_ok_iff.1 read
  cases read
  rw [build_eq] at set
  obtain ⟨evm, evmSet, set⟩ := bind_eq_ok_iff.1 set
  obtain ⟨solana, solanaSet, set⟩ := bind_eq_ok_iff.1 set
  obtain ⟨near, nearSet, set⟩ := bind_eq_ok_iff.1 set
  cases set
  exact ⟨standsFor_of_evmChains (Signers.isSome_of_evmOf ofEvm) evmSet,
    profile_of_solanaChain? (Signers.isSome_of_solanaOf ofSolana) solanaSet,
    profile_of_nearChain? (Signers.isSome_of_nearOf ofNear) nearSet⟩

theorem described_evm {entries : List Layout.ChainEntry} {cs : List EvmChain}
    (stand : List.Forall₂ (fun e c => c.StandsFor e) entries cs) :
    (cs.map Chain.evm).map Chain.described = entries.map fun e => (.evm, entryProfile e) := by
  induction stand with
  | nil => rfl
  | cons own _ ih =>
      rw [List.map_cons, List.map_cons, List.map_cons, ih, Chain.described, Chain.profile, own.profile]
      rfl

theorem described_cluster {α : Type} {kind : ChainKind} (form : α → Chain) {profile : α → ChainProfile}
    (described : ∀ c, (form c).described = (kind, profile c)) {c? : Option α}
    {cluster? : Option Layout.Cluster}
    (same : c?.map profile = cluster?.map (clusterProfile kind)) :
    (c?.toList.map form).map Chain.described =
      cluster?.toList.map fun c => (kind, clusterProfile kind c) := by
  cases c? with
  | none =>
      cases cluster? with
      | none => rfl
      | some cluster => cases same
  | some c =>
      cases cluster? with
      | none => cases same
      | some cluster =>
          change [(form c).described] = [(kind, clusterProfile kind cluster)]
          rw [described, Option.some.inj same]

theorem Built.StandsFor.described (stands : built.StandsFor l) :
    built.toList.map Chain.described = l.profiles := by
  have solana := described_cluster Chain.solana (fun _ => rfl) stands.solana
  have near := described_cluster Chain.near (fun _ => rfl) stands.near
  rw [Built.toList, List.map_append, List.map_append, described_evm stands.evm, solana, near]
  rfl

/-- Setting up fails for a chain. -/
theorem chain_of_build (refused : build l signers limit = .error e) : ∃ why, e = .chain why := by
  rw [build_eq] at refused
  obtain refused | ⟨_, -, refused⟩ := bind_eq_error_iff.1 refused
  · unfold evmChains at refused
    split at refused
    · exact chain_of_buildEvm refused
    · cases refused
  obtain refused | ⟨_, -, refused⟩ := bind_eq_error_iff.1 refused
  · unfold solanaChain? at refused
    split at refused
    · obtain ⟨why, -, rfl⟩ := mapError_eq_error_iff.1 (map_eq_error_iff.1 refused)
      exact ⟨why, rfl⟩
    · cases refused
  obtain refused | ⟨_, -, refused⟩ := bind_eq_error_iff.1 refused
  · unfold nearChain? at refused
    split at refused
    · obtain ⟨why, -, rfl⟩ := mapError_eq_error_iff.1 (map_eq_error_iff.1 refused)
      exact ⟨why, rfl⟩
    · cases refused
  · cases refused

end Networks

end TokenFaucet
