import TokenFaucet.Networks.Load
import TokenFaucet.Proofs.Dialogue.Course
import TokenFaucet.Proofs.Result
import TokenFaucet.Proofs.Table

set_option autoImplicit false

namespace TokenFaucet

/-- A chain has the signer of its family. -/
def Chain.SignedBy (signers : Signers) : Chain → Prop
  | .evm c => signers.evm = some c.signer
  | .solana c => signers.solana = some c.signer
  | .near c => signers.near = some c.signer

namespace ChainRegistry

variable {r r' : ChainRegistry} {P : Chain → Prop}

/-- Every chain of a registry stands under its own family and id, and has a property. -/
def Holds (P : Chain → Prop) (r : ChainRegistry) : Prop :=
  ∀ row ∈ r.rows, row.1 = (row.2.kind, row.2.id) ∧ P row.2

theorem holds_empty : Holds P empty := by
  intro row mem
  cases mem

theorem Holds.insert {c : Chain} (holds : Holds P r) (new : P c) (inserted : r.insert c = .ok r') :
    Holds P r' := by
  unfold ChainRegistry.insert at inserted
  split at inserted
  · cases inserted
  · cases inserted
    intro row mem
    obtain rfl | earlier := Table.mem_put mem
    · exact ⟨rfl, new⟩
    · exact holds row earlier

theorem Holds.insertAll {cs : List Chain} (holds : Holds P r) (new : ∀ c ∈ cs, P c)
    (inserted : r.insertAll cs = .ok r') : Holds P r' := by
  induction cs generalizing r with
  | nil =>
      cases inserted
      exact holds
  | cons c rest ih =>
      obtain ⟨middle, first, later⟩ := bind_eq_ok_iff.1 inserted
      have mine := holds.insert (new c (List.mem_cons_self ..)) first
      exact ih mine (fun c mem => new c (List.mem_cons_of_mem _ mem)) later

theorem Holds.get {kind : ChainKind} {id : String} {c : Chain} (holds : Holds P r)
    (found : r.get? kind id = some c) : c.kind = kind ∧ c.id = id ∧ P c := by
  obtain ⟨key, property⟩ := holds _ (Table.mem_of_find? found)
  obtain ⟨family, name⟩ := Prod.mk.inj key
  exact ⟨family.symm, name.symm, property⟩

theorem Holds.of_mem {c : Chain} (holds : Holds P r) (mem : c ∈ r.toList) : P c := by
  obtain ⟨row, among, rfl⟩ := List.mem_map.1 mem
  exact (holds row among).2

end ChainRegistry

namespace TokenRegistry

variable {r r' : TokenRegistry} {t : Token}

theorem mem_of_get? {address : String} (found : r.get? address = some t) : t ∈ r.toList :=
  List.mem_map.2 ⟨_, Table.mem_of_find? found, rfl⟩

/-- A token is registered at its address in lower case. -/
theorem mem_insert {new : Token} (inserted : r.insert new = .ok r') (mem : t ∈ r'.toList) :
    t.address = Text.lowerCase new.address ∨ t ∈ r.toList := by
  unfold TokenRegistry.insert at inserted
  dsimp only at inserted
  split at inserted
  · cases inserted
  · cases inserted
    obtain ⟨row, among, rfl⟩ := List.mem_map.1 mem
    obtain rfl | earlier := Table.mem_put among
    · exact .inl rfl
    · exact .inr (List.mem_map_of_mem earlier)

end TokenRegistry

theorem EvmChain.signer_of_ofProfile {profile : ChainProfile} {signer : EvmSigner} {limit : Nat}
    {serializes : Bool} {c : EvmChain}
    (built : EvmChain.ofProfile profile signer limit serializes = .ok c) : c.signer = signer := by
  obtain ⟨_, -, built⟩ := bind_eq_ok_iff.1 built
  obtain ⟨_, -, built⟩ := bind_eq_ok_iff.1 built
  cases built
  rfl

theorem SolanaChain.signer_of_ofProfile {profile : ChainProfile} {signer : SolanaSigner}
    {limit : Nat} {c : SolanaChain}
    (built : SolanaChain.ofProfile profile signer limit = .ok c) : c.signer = signer := by
  obtain ⟨_, -, built⟩ := bind_eq_ok_iff.1 built
  cases built
  rfl

theorem NearChain.signer_of_ofProfile {profile : ChainProfile} {signer : NearSigner} {limit : Nat}
    {c : NearChain} (built : NearChain.ofProfile profile signer limit = .ok c) :
    c.signer = signer := by
  obtain ⟨_, -, built⟩ := bind_eq_ok_iff.1 built
  cases built
  rfl

theorem EvmSigner.key_ofKey (key : Curve.Secp256k1.PrivateKey) : (EvmSigner.ofKey key).key = key := by
  unfold EvmSigner.ofKey
  cases key.publicPoint
  rfl

theorem EvmSigner.eq_ofKey_of_parse {secret : String} {signer : EvmSigner}
    (read : EvmSigner.parse secret = .ok signer) : signer = .ofKey signer.key := by
  obtain ⟨key, rfl⟩ : ∃ key, signer = .ofKey key := by
    unfold EvmSigner.parse at read
    dsimp only at read
    split at read
    · split at read
      · cases read
      · split at read <;> cases read
        exact ⟨_, rfl⟩
    · obtain ⟨bytes, -, read⟩ := bind_eq_ok_iff.1 read
      split at read <;> cases read
      exact ⟨_, rfl⟩
  rw [EvmSigner.key_ofKey]

theorem NearSigner.isValid_of_parse {account secret : String} {signer : NearSigner}
    (read : NearSigner.parse account secret = .ok signer) :
    Near.AccountId.isValid signer.accountId := by
  unfold NearSigner.parse at read
  dsimp only at read
  split at read
  · cases read
  · next valid =>
      obtain ⟨bytes, -, read⟩ := bind_eq_ok_iff.1 read
      obtain ⟨key, -, read⟩ := bind_eq_ok_iff.1 read
      cases read
      simpa using valid

namespace Signers

/-- Signers have accounts: on EVM chains the one of the key, on NEAR one with a valid name. -/
structure Named (s : Signers) : Prop where
  evm : ∀ signer, s.evm = some signer → signer = .ofKey signer.key
  near : ∀ signer, s.near = some signer → Near.AccountId.isValid signer.accountId

variable {l : Layout} {secrets : Secrets}

theorem parse_of_evmOf {signer : EvmSigner} (read : evmOf l secrets = .ok (some signer)) :
    ∃ secret, EvmSigner.parse secret = .ok signer := by
  unfold evmOf at read
  split at read
  · cases read
  · obtain ⟨secret, -, read⟩ := bind_eq_ok_iff.1 read
    obtain ⟨parsed, done, read⟩ := bind_eq_ok_iff.1 read
    cases read
    exact ⟨secret, mapError_eq_ok_iff.1 done⟩

theorem parse_of_nearOf {signer : NearSigner} (read : nearOf l secrets = .ok (some signer)) :
    ∃ account secret, NearSigner.parse account secret = .ok signer := by
  unfold nearOf at read
  split at read
  · cases read
  · obtain ⟨account, -, read⟩ := bind_eq_ok_iff.1 read
    obtain ⟨secret, -, read⟩ := bind_eq_ok_iff.1 read
    obtain ⟨parsed, done, read⟩ := bind_eq_ok_iff.1 read
    cases read
    exact ⟨account, secret, mapError_eq_ok_iff.1 done⟩

theorem named_of_ofSecrets {signers : Signers} (read : ofSecrets l secrets = .ok signers) :
    signers.Named := by
  obtain ⟨evm, ofEvm, read⟩ := bind_eq_ok_iff.1 read
  obtain ⟨solana, -, read⟩ := bind_eq_ok_iff.1 read
  obtain ⟨near, ofNear, read⟩ := bind_eq_ok_iff.1 read
  cases read
  constructor
  · rintro signer rfl
    obtain ⟨secret, parsed⟩ := parse_of_evmOf ofEvm
    exact EvmSigner.eq_ofKey_of_parse parsed
  · rintro signer rfl
    obtain ⟨account, secret, parsed⟩ := parse_of_nearOf ofNear
    exact NearSigner.isValid_of_parse parsed

end Signers

namespace Networks

open Dialogue (Course)

/-- A question of a program that loads networks, and its answer. -/
abbrev Turn := Dialogue.Turn Query Query.Answer

variable {l : Layout} {secrets : Secrets} {limit : Nat} {signers : Signers} {built : Built}

/-- EVM chains are set up one to an entry, in order. -/
theorem buildEvm_eq_ok_iff {signer : EvmSigner} {serializes : Bool}
    {entries : List Layout.ChainEntry} {cs : List EvmChain} :
    buildEvm signer limit serializes entries = .ok cs ↔
      List.Forall₂
        (fun e c => EvmChain.ofProfile (entryProfile e) signer limit serializes = .ok c)
        entries cs := by
  induction entries generalizing cs with
  | nil =>
      rw [List.forall₂_nil_left_iff]
      exact ⟨fun done => (Except.ok.inj done).symm, fun empty => congrArg _ empty.symm⟩
  | cons e rest ih =>
      constructor
      · intro done
        obtain ⟨c, first, done⟩ := bind_eq_ok_iff.1 done
        obtain ⟨others, later, done⟩ := bind_eq_ok_iff.1 done
        cases done
        exact .cons (mapError_eq_ok_iff.1 first) (ih.1 later)
      · rintro ⟨⟩
        next c others first later =>
        exact bind_eq_ok_iff.2 ⟨c, mapError_eq_ok_iff.2 first,
          bind_eq_ok_iff.2 ⟨others, ih.2 later, rfl⟩⟩

theorem entry_of_buildEvm {signer : EvmSigner} {serializes : Bool}
    {entries : List Layout.ChainEntry} {cs : List EvmChain}
    (done : buildEvm signer limit serializes entries = .ok cs) :
    ∀ c ∈ cs, ∃ e ∈ entries,
      EvmChain.ofProfile (entryProfile e) signer limit serializes = .ok c :=
  Table.exists_of_forall₂ (buildEvm_eq_ok_iff.1 done).flip

theorem signer_of_buildEvm {signer : EvmSigner} {serializes : Bool}
    {entries : List Layout.ChainEntry} {cs : List EvmChain}
    (done : buildEvm signer limit serializes entries = .ok cs) : ∀ c ∈ cs, c.signer = signer := by
  intro c mem
  obtain ⟨e, -, own⟩ := entry_of_buildEvm done c mem
  exact EvmChain.signer_of_ofProfile own

def evmChains (l : Layout) (signers : Signers) (limit : Nat) : Except ConfigError (List EvmChain) :=
  match signers.evm with
  | some signer => buildEvm signer limit l.evm.serializeSubmissions l.evm.chains
  | none => .ok []

def solanaChain? (l : Layout) (signers : Signers) (limit : Nat) :
    Except ConfigError (Option SolanaChain) :=
  match l.solana, signers.solana with
  | some c, some signer =>
    ((SolanaChain.ofProfile (clusterProfile .solana c) signer limit).mapError .chain).map some
  | _, _ => .ok none

def nearChain? (l : Layout) (signers : Signers) (limit : Nat) :
    Except ConfigError (Option NearChain) :=
  match l.near, signers.near with
  | some c, some signer =>
    ((NearChain.ofProfile (clusterProfile .near c) signer limit).mapError .chain).map some
  | _, _ => .ok none

theorem build_eq (l : Layout) (signers : Signers) (limit : Nat) :
    build l signers limit = (evmChains l signers limit).bind fun evm =>
      (solanaChain? l signers limit).bind fun solana =>
        (nearChain? l signers limit).bind fun near => .ok ⟨evm, solana, near⟩ := by
  unfold build evmChains solanaChain? nearChain?
  cases signers.evm <;> cases l.solana <;> cases signers.solana <;> cases l.near <;>
    cases signers.near <;> rfl

theorem signedBy_of_evmChains {cs : List EvmChain} (done : evmChains l signers limit = .ok cs) :
    ∀ c ∈ cs, (Chain.evm c).SignedBy signers := by
  unfold evmChains at done
  split at done
  · next signer given =>
      intro c mem
      rw [Chain.SignedBy, given, signer_of_buildEvm done c mem]
  · cases done
    simp

theorem signedBy_of_solanaChain? {c : SolanaChain}
    (done : solanaChain? l signers limit = .ok (some c)) : (Chain.solana c).SignedBy signers := by
  unfold solanaChain? at done
  split at done
  · next cluster signer _ given =>
      obtain ⟨c', done, same⟩ := map_eq_ok_iff.1 done
      cases same
      rw [Chain.SignedBy, given, SolanaChain.signer_of_ofProfile (mapError_eq_ok_iff.1 done)]
  · cases done

theorem signedBy_of_nearChain? {c : NearChain} (done : nearChain? l signers limit = .ok (some c)) :
    (Chain.near c).SignedBy signers := by
  unfold nearChain? at done
  split at done
  · next cluster signer _ given =>
      obtain ⟨c', done, same⟩ := map_eq_ok_iff.1 done
      cases same
      rw [Chain.SignedBy, given, NearChain.signer_of_ofProfile (mapError_eq_ok_iff.1 done)]
  · cases done

/-- Every chain that was set up has the signer of its family. -/
theorem signedBy_of_build (done : build l signers limit = .ok built) :
    ∀ c ∈ built.toList, c.SignedBy signers := by
  rw [build_eq] at done
  obtain ⟨evm, ofEvm, done⟩ := bind_eq_ok_iff.1 done
  obtain ⟨solana, ofSolana, done⟩ := bind_eq_ok_iff.1 done
  obtain ⟨near, ofNear, done⟩ := bind_eq_ok_iff.1 done
  cases done
  intro c mem
  simp only [Built.toList, List.mem_append, List.mem_map, Option.mem_toList] at mem
  obtain (⟨c, mem, rfl⟩ | ⟨c, is, rfl⟩) | ⟨c, is, rfl⟩ := mem
  · exact signedBy_of_evmChains ofEvm c mem
  · exact signedBy_of_solanaChain? (ofSolana.trans (congrArg _ is))
  · exact signedBy_of_nearChain? (ofNear.trans (congrArg _ is))

theorem register_eq_ok_iff {networks : Networks} :
    register l signers built = .ok networks ↔
      networks.signers = signers ∧ ChainRegistry.empty.insertAll built.toList = .ok networks.chains ∧
        buildTokens l = .ok networks.tokens := by
  constructor
  · intro registered
    obtain ⟨chains, inserted, registered⟩ := bind_eq_ok_iff.1 registered
    obtain ⟨tokens, named, registered⟩ := bind_eq_ok_iff.1 registered
    cases registered
    exact ⟨rfl, mapError_eq_ok_iff.1 inserted, named⟩
  · rintro ⟨rfl, inserted, named⟩
    exact bind_eq_ok_iff.2 ⟨networks.chains, mapError_eq_ok_iff.2 inserted,
      bind_eq_ok_iff.2 ⟨networks.tokens, named, rfl⟩⟩

/-- Loading is the check of what was set up, and then its registration. -/
theorem load_eq (read : Signers.ofSecrets l secrets = .ok signers)
    (set : build l signers limit = .ok built) :
    load l secrets limit = (verify built).andThen fun r => match r with
      | .error e => .done (.error e)
      | .ok () =>
        match register l signers built with
        | .error e => .done (.error e)
        | .ok networks =>
          .ask (.note (.info "Faucet networks loaded")) fun _ => .done (.ok networks) := by
  rw [load, read]
  dsimp only
  rw [set]
  rfl

/-- How loading ends: it fails while signers or chains are set up or at the check of the nodes, or it
ends as the registration does. -/
theorem load_cases {turns : List Turn} {r : Except ConfigError Networks}
    (course : Course (load l secrets limit) turns r) :
    (∃ e, Signers.ofSecrets l secrets = .error e ∧ r = .error e) ∨
      ∃ signers, Signers.ofSecrets l secrets = .ok signers ∧
        ((∃ e, build l signers limit = .error e ∧ r = .error e) ∨
          ∃ built, build l signers limit = .ok built ∧
            ((∃ checking e, Course (verify built) checking (.error e) ∧ r = .error e) ∨
              r = register l signers built)) := by
  cases read : Signers.ofSecrets l secrets with
  | error e =>
      rw [load, read] at course
      exact .inl ⟨e, rfl, (Dialogue.course_done_iff.1 course).2⟩
  | ok signers =>
      refine .inr ⟨signers, rfl, ?_⟩
      cases set : build l signers limit with
      | error e =>
          rw [load, read] at course
          dsimp only at course
          rw [set] at course
          exact .inl ⟨e, rfl, (Dialogue.course_done_iff.1 course).2⟩
      | ok built =>
          refine .inr ⟨built, rfl, ?_⟩
          rw [load_eq read set] at course
          obtain ⟨verified, checking, _, -, checked, course⟩ := Dialogue.course_andThen_iff.1 course
          cases verified with
          | error e => exact .inl ⟨checking, e, checked, (Dialogue.course_done_iff.1 course).2⟩
          | ok _ =>
              dsimp only at course
              refine .inr ?_
              split at course
              · next e refused => rw [refused, (Dialogue.course_done_iff.1 course).2]
              · next networks registered =>
                obtain ⟨_, _, -, noted⟩ := Dialogue.course_ask_iff.1 course
                rw [registered, (Dialogue.course_done_iff.1 noted).2]

/-- Networks that are loaded are registered as they were set up, whatever the nodes answered. -/
theorem registered_of_load {turns : List Turn} {networks : Networks}
    (course : Course (load l secrets limit) turns (.ok networks)) :
    ∃ signers built, Signers.ofSecrets l secrets = .ok signers ∧ build l signers limit = .ok built ∧
      register l signers built = .ok networks := by
  obtain ⟨_, -, failed⟩ | ⟨signers, read, ended⟩ := load_cases course
  · cases failed
  obtain ⟨_, -, failed⟩ | ⟨built, set, ended⟩ := ended
  · cases failed
  obtain ⟨_, _, -, failed⟩ | registered := ended
  · cases failed
  · exact ⟨signers, built, read, set, registered.symm⟩

theorem signers_named_of_load {turns : List Turn} {networks : Networks}
    (course : Course (load l secrets limit) turns (.ok networks)) : networks.signers.Named := by
  obtain ⟨signers, built, read, -, registered⟩ := registered_of_load course
  rw [(register_eq_ok_iff.1 registered).1]
  exact Signers.named_of_ofSecrets read

def nobodyAnswers : (q : Query) → Unit → q.Answer × Unit
  | .network (.exchange _), _ => (.unreachable, ())
  | .network (.acquire _), _ => ((), ())
  | .network (.release _), _ => ((), ())
  | .note _, _ => ((), ())

/-- Nodes that cannot be reached are passed over. -/
theorem verify_nobodyAnswers (b : Built) : ((verify b).run nobodyAnswers ()).1 = .ok () := by
  have evm (cs : List EvmChain) : ((verifyEvm cs).run nobodyAnswers ()).1 = .ok () := by
    induction cs with
    | nil => rfl
    | cons c rest ih => exact ih
  change (((verifyEvm b.evm).andThen _).run nobodyAnswers ()).1 = _
  rw [Dialogue.run_andThen, evm]
  cases b.solana <;> rfl

/-- Networks that are set up and can be registered are loaded though every node is down. -/
theorem load_nobodyAnswers {networks : Networks} (read : Signers.ofSecrets l secrets = .ok signers)
    (set : build l signers limit = .ok built) (registered : register l signers built = .ok networks) :
    ((load l secrets limit).run nobodyAnswers ()).1 = .ok networks := by
  rw [load_eq read set, Dialogue.run_andThen, verify_nobodyAnswers]
  dsimp only
  rw [registered]
  rfl

/-- Every chain of loaded networks stands under its own family and id, and its signer is the one of
its family. -/
theorem holds_of_load {turns : List Turn} {networks : Networks}
    (course : Course (load l secrets limit) turns (.ok networks)) :
    networks.chains.Holds (·.SignedBy networks.signers) := by
  obtain ⟨signers, built, -, set, registered⟩ := registered_of_load course
  obtain ⟨same, inserted, -⟩ := register_eq_ok_iff.1 registered
  rw [same]
  exact ChainRegistry.holds_empty.insertAll (signedBy_of_build set) inserted

/-- A chain that is found in loaded networks is of the family and has the id that it was looked up
by, and its signer is the one of its family. -/
theorem chain_of_load {turns : List Turn} {networks : Networks}
    (course : Course (load l secrets limit) turns (.ok networks)) {kind : ChainKind} {id : String}
    {c : Chain} (found : networks.chains.get? kind id = some c) :
    c.kind = kind ∧ c.id = id ∧ c.SignedBy networks.signers :=
  (holds_of_load course).get found

/-- Every token that is registered comes from an entry, whose address it has in lower case. -/
theorem entry_of_registerTokens {entries : List Layout.TokenEntry} {r r' : TokenRegistry}
    (done : registerTokens r entries = .ok r') :
    ∀ t ∈ r'.toList, t ∈ r.toList ∨ ∃ e ∈ entries, t.address = Text.lowerCase e.address := by
  induction entries generalizing r with
  | nil =>
      cases done
      exact fun t mem => .inl mem
  | cons e rest ih =>
      obtain ⟨standard, -, done⟩ := bind_eq_ok_iff.1 done
      obtain ⟨middle, first, later⟩ := bind_eq_ok_iff.1 done
      replace first := mapError_eq_ok_iff.1 first
      intro t mem
      obtain mem | ⟨e', among, own⟩ := ih later t mem
      · obtain own | earlier := TokenRegistry.mem_insert first mem
        · exact .inr ⟨e, List.mem_cons_self .., own⟩
        · exact .inl earlier
      · exact .inr ⟨e', List.mem_cons_of_mem _ among, own⟩

/-- Every token of loaded networks comes from an entry of the layout. -/
theorem tokenEntry_of_load {turns : List Turn} {networks : Networks}
    (course : Course (load l secrets limit) turns (.ok networks)) :
    ∀ t ∈ networks.tokens.toList, ∃ e ∈ l.evm.tokens, t.address = Text.lowerCase e.address := by
  obtain ⟨signers, built, -, -, registered⟩ := registered_of_load course
  obtain ⟨-, -, tokens⟩ := register_eq_ok_iff.1 registered
  intro t mem
  obtain earlier | found := entry_of_registerTokens tokens t mem
  · cases earlier
  · exact found

end Networks

end TokenFaucet
