import Mathlib.Data.List.Nodup
import TokenFaucet.Proofs.Chain.Receiver
import TokenFaucet.Proofs.Config.Validation

set_option autoImplicit false

namespace TokenFaucet.Layout

section Scan

variable {α β ε : Type} {check : List β → α → Except ε Unit} {note : α → β}
  {scan : List β → List α → Except ε Unit}

/-- A list is scanned from its front, with notes of what was passed: it is refused for the first
element that is refused after the ones before it. -/
theorem scan_eq_error_iff (empty : ∀ seen, scan seen [] = .ok ())
    (step : ∀ seen a rest,
      scan seen (a :: rest) = (check seen a).bind fun _ => scan (note a :: seen) rest)
    {seen : List β} {as : List α} {e : ε} :
    scan seen as = .error e ↔ ∃ before a after, as = before ++ a :: after ∧
      scan seen before = .ok () ∧ check ((before.map note).reverse ++ seen) a = .error e := by
  -- what was passed is noted, so the notes stay general
  induction as generalizing seen with
  | nil => simp [empty]
  | cons first rest ih =>
      rw [step, bind_eq_error_iff]
      constructor
      · rintro (refused | ⟨_, passed, refused⟩)
        · exact ⟨[], first, rest, rfl, empty seen, refused⟩
        · obtain ⟨before, a, after, rfl, earlier, refused⟩ := ih.1 refused
          refine ⟨first :: before, a, after, rfl, ?_, by simpa using refused⟩
          rw [step]
          exact bind_eq_ok_iff.2 ⟨_, passed, earlier⟩
      · rintro ⟨before, a, after, split, earlier, refused⟩
        cases before with
        | nil =>
            obtain ⟨rfl, rfl⟩ := List.cons.inj split
            exact .inl refused
        | cons b before =>
            obtain ⟨rfl, rfl⟩ := List.cons.inj split
            rw [step] at earlier
            obtain ⟨_, passed, earlier⟩ := bind_eq_ok_iff.1 earlier
            exact .inr ⟨_, passed, ih.2 ⟨before, a, after, rfl, earlier, by simpa using refused⟩⟩

/-- Of two places in one list, the earlier one lies in front of the later one. -/
theorem prefix_of_split {before before' after after' : List α} {a a' : α}
    (split : before' ++ a' :: after' = before ++ a :: after) (earlier : before'.length < before.length) :
    before' ++ [a'] <+: before := by
  have front : before' ++ [a'] <+: before ++ a :: after := ⟨after', by rw [← split]; simp⟩
  refine List.prefix_of_prefix_length_le front (List.prefix_append ..) ?_
  simpa using Nat.succ_le_of_lt earlier

end Scan

/-- What is checked of a chain, in this order. -/
inductive ChainPart where
  | chainId
  | endpoint
  | name

namespace ChainPart

def rank : ChainPart → Nat
  | chainId => 0
  | endpoint => 1
  | name => 2

def unique : ChainPart → Unique
  | chainId => .evmChainId
  | endpoint => .evmEndpoint
  | name => .evmChainName

/-- How a chain has a part written. -/
def text : ChainPart → ChainEntry → String
  | chainId => (·.chainId)
  | endpoint => (·.rpc)
  | name => (·.name)

end ChainPart

/-- What is checked of a token, in this order. -/
inductive TokenPart where
  | address
  | standard
  | chains
  | repetition

def TokenPart.rank : TokenPart → Nat
  | address => 0
  | standard => 1
  | chains => 2
  | repetition => 3

/-- A part of a chain is wrong if a chain before it has it written the same. -/
inductive ChainEntry.Violates (before : List ChainEntry) (c : ChainEntry) :
    ChainPart → Error → Prop where
  | repeated {part : ChainPart} {a : ChainEntry} (mem : a ∈ before) (same : part.text a = part.text c) :
      Violates before c part (.duplicate part.unique (part.text c))

/-- What is wrong with a token, perhaps because of the tokens before it. -/
inductive TokenEntry.Violates (before : List TokenEntry) (t : TokenEntry) :
    TokenPart → Error → Prop where
  | address (other : ¬ ChainKind.evm.Names (Text.lowerCase t.address)) :
      Violates before t .address (.invalidToken t.address .badAddress)
  | standard (other : t.standard ≠ "ERC20") :
      Violates before t .standard
        (.invalidToken t.address (.unknownStandard s!"{t.standard} not supported contract type"))
  | chains (none : t.chains = []) : Violates before t .chains (.invalidToken t.address .noChains)
  | repetition {a : TokenEntry} (mem : a ∈ before)
      (same : Text.lowerCase a.address = Text.lowerCase t.address) :
      Violates before t .repetition (.duplicate .tokenAddress (Text.lowerCase t.address))

/-- A place where a layout is checked: a part of the chain or of the token at an index, or the
clusters. -/
inductive Place where
  | chain (index : Nat) (part : ChainPart)
  | clusters
  | token (index : Nat) (part : TokenPart)

/-- The order in which places are checked: the chains, the clusters, the tokens. -/
inductive Place.Before : Place → Place → Prop where
  | chains {i j : Nat} {p q : ChainPart} (earlier : i < j) : Before (.chain i p) (.chain j q)
  | chainParts {i : Nat} {p q : ChainPart} (earlier : p.rank < q.rank) :
      Before (.chain i p) (.chain i q)
  | chainClusters {i : Nat} {p : ChainPart} : Before (.chain i p) .clusters
  | chainToken {i j : Nat} {p : ChainPart} {q : TokenPart} : Before (.chain i p) (.token j q)
  | clustersToken {j : Nat} {q : TokenPart} : Before .clusters (.token j q)
  | tokens {i j : Nat} {p q : TokenPart} (earlier : i < j) : Before (.token i p) (.token j q)
  | tokenParts {i : Nat} {p q : TokenPart} (earlier : p.rank < q.rank) :
      Before (.token i p) (.token i q)

/-- A layout is wrong at a place, and how that is reported. -/
inductive Violates (l : Layout) : Place → Error → Prop where
  | chain {before after : List ChainEntry} {c : ChainEntry} {part : ChainPart} {e : Error}
      (split : l.evm.chains = before ++ c :: after) (wrong : c.Violates before part e) :
      Violates l (.chain before.length part) e
  | clusters {a b : Cluster} (solana : l.solana = some a) (near : l.near = some b)
      (same : a.rpc = b.rpc) : Violates l .clusters (.duplicate .clusterEndpoint a.rpc)
  | token {before after : List TokenEntry} {t : TokenEntry} {part : TokenPart} {e : Error}
      (split : l.evm.tokens = before ++ t :: after) (wrong : t.Violates before part e) :
      Violates l (.token before.length part) e

/-- The first place that is wrong. -/
structure FirstViolation (l : Layout) (p : Place) (e : Error) : Prop where
  wrong : l.Violates p e
  first : ∀ p' e', l.Violates p' e' → ¬ p'.Before p

/-- A token that is well described: it has an address, is of the standard that is known, and is on
some chain. -/
structure TokenEntry.WellFormed (t : TokenEntry) : Prop where
  address : ChainKind.evm.Names (Text.lowerCase t.address)
  standard : t.standard = "ERC20"
  chains : t.chains ≠ []

/-- Two tokens are at different addresses, whatever the case of their letters. -/
def TokenEntry.Apart (a b : TokenEntry) : Prop :=
  Text.lowerCase a.address ≠ Text.lowerCase b.address

/-- Layouts in which nothing is wrong. -/
structure WellFormed (l : Layout) : Prop where
  chainIds : (l.evm.chains.map (·.chainId)).Nodup
  endpoints : (l.evm.chains.map (·.rpc)).Nodup
  names : (l.evm.chains.map (·.name)).Nodup
  clusters : ∀ a b, l.solana = some a → l.near = some b → a.rpc ≠ b.rpc
  tokens : ∀ t ∈ l.evm.tokens, t.WellFormed
  addresses : (l.evm.tokens.map fun t => Text.lowerCase t.address).Nodup

theorem checkNew_eq_error_iff {what : Unique} {values : List String} {value : String} {e : Error} :
    checkNew what values value = .error e ↔ value ∈ values ∧ e = .duplicate what value := by
  unfold checkNew
  cases seen : values.contains value with
  | true => simpa [eq_comm] using fun _ => seen
  | false => simpa using fun mem => absurd mem (by simpa using seen)

section Chains

variable {before entries : List ChainEntry} {c : ChainEntry} {part : ChainPart} {e : Error}

theorem ChainEntry.apart_iff {a b : ChainEntry} :
    a.Apart b ↔ ∀ part : ChainPart, part.text a ≠ part.text b := by
  constructor
  · rintro ⟨chainId, rpc, name⟩ (_ | _ | _)
    · exact chainId
    · exact rpc
    · exact name
  · intro apart
    exact ⟨apart .chainId, apart .endpoint, apart .name⟩

theorem ChainEntry.not_violates (apart : ∀ a ∈ before, a.Apart c) : ¬ c.Violates before part e := by
  rintro ⟨mem, same⟩
  exact ChainEntry.apart_iff.1 (apart _ mem) part same

/-- The checks of one chain. -/
def ChainEntry.checkAfter (earlier : List ChainEntry) (c : ChainEntry) : Except Error Unit := do
  checkNew .evmChainId (earlier.map (·.chainId)) c.chainId
  checkNew .evmEndpoint (earlier.map (·.rpc)) c.rpc
  checkNew .evmChainName (earlier.map (·.name)) c.name

theorem checkChains_cons (earlier : List ChainEntry) (c : ChainEntry) (rest : List ChainEntry) :
    checkChains earlier (c :: rest) =
      (c.checkAfter earlier).bind fun _ => checkChains (c :: earlier) rest := by
  rw [checkChains, ChainEntry.checkAfter]
  cases checkNew .evmChainId (earlier.map (·.chainId)) c.chainId <;>
    cases checkNew .evmEndpoint (earlier.map (·.rpc)) c.rpc <;> rfl

/-- A chain is refused for the first of its parts that is wrong. -/
theorem ChainEntry.violates_of_check (refused : c.checkAfter before.reverse = .error e) :
    ∃ part, c.Violates before part e ∧
      ∀ part' e', c.Violates before part' e' → part.rank ≤ part'.rank := by
  have repeated {part : ChainPart} (seen : part.text c ∈ before.reverse.map part.text) :
      c.Violates before part (.duplicate part.unique (part.text c)) := by
    obtain ⟨a, mem, same⟩ := List.mem_map.1 seen
    exact .repeated (List.mem_reverse.1 mem) same
  have new (part : ChainPart) (unseen : part.text c ∉ before.reverse.map part.text) (e' : Error) :
      ¬ c.Violates before part e' := by
    rintro ⟨mem, same⟩
    exact unseen (List.mem_map.2 ⟨_, List.mem_reverse.2 mem, same⟩)
  obtain refused | ⟨_, ids, refused⟩ := bind_eq_error_iff.1 refused
  · obtain ⟨seen, rfl⟩ := checkNew_eq_error_iff.1 refused
    exact ⟨.chainId, repeated seen, fun _ _ _ => Nat.zero_le _⟩
  replace ids := new .chainId (checkNew_eq_ok_iff.1 ids)
  obtain refused | ⟨_, endpoints, refused⟩ := bind_eq_error_iff.1 refused
  · obtain ⟨seen, rfl⟩ := checkNew_eq_error_iff.1 refused
    refine ⟨.endpoint, repeated seen, ?_⟩
    rintro (_ | _ | _) e' wrong
    · exact absurd wrong (ids e')
    · exact Nat.le_refl 1
    · decide
  replace endpoints := new .endpoint (checkNew_eq_ok_iff.1 endpoints)
  obtain ⟨seen, rfl⟩ := checkNew_eq_error_iff.1 refused
  refine ⟨.name, repeated seen, ?_⟩
  rintro (_ | _ | _) e' wrong
  · exact absurd wrong (ids e')
  · exact absurd wrong (endpoints e')
  · exact Nat.le_refl 2

theorem pairwise_apart_iff : entries.Pairwise ChainEntry.Apart ↔
    (entries.map (·.chainId)).Nodup ∧ (entries.map (·.rpc)).Nodup ∧ (entries.map (·.name)).Nodup := by
  simp only [List.Nodup, List.pairwise_map, ← List.pairwise_and_iff]
  exact ⟨fun apart => apart.imp fun ⟨id, rpc, name⟩ => ⟨id, rpc, name⟩,
    fun apart => apart.imp fun ⟨id, rpc, name⟩ => ⟨id, rpc, name⟩⟩

theorem violates_chain_iff {l : Layout} {i : Nat} :
    l.Violates (.chain i part) e ↔ ∃ before c after, l.evm.chains = before ++ c :: after ∧
      before.length = i ∧ c.Violates before part e := by
  constructor
  · intro violates
    cases violates with
    | chain split wrong => exact ⟨_, _, _, split, rfl, wrong⟩
  · rintro ⟨before, c, after, split, rfl, wrong⟩
    exact .chain split wrong

/-- No chain is wrong if all are apart. -/
theorem not_violates_chain {l : Layout} {i : Nat} (apart : l.evm.chains.Pairwise ChainEntry.Apart) :
    ¬ l.Violates (.chain i part) e := by
  intro wrong
  obtain ⟨before, c, after, split, -, fault⟩ := violates_chain_iff.1 wrong
  rw [split] at apart
  have own := (List.pairwise_append.1 apart).2.2
  exact ChainEntry.not_violates (fun a mem => own a mem c (List.mem_cons_self ..)) fault

/-- The first chain that is refused is the first place that is wrong. -/
theorem firstViolation_of_checkChains {l : Layout}
    (refused : checkChains [] l.evm.chains = .error e) : ∃ p, l.FirstViolation p e := by
  obtain ⟨before, c, after, split, earlier, refused⟩ :=
    (scan_eq_error_iff (fun _ => rfl) checkChains_cons).1 refused
  rw [List.map_id', List.append_nil] at refused
  obtain ⟨part, wrong, least⟩ := c.violates_of_check refused
  refine ⟨.chain before.length part, .chain split wrong, ?_⟩
  intro p' e' wrong' order
  cases order with
  | chains shorter =>
      obtain ⟨before', c', after', split', rfl, fault⟩ := violates_chain_iff.1 wrong'
      have among := (prefix_of_split (split'.symm.trans split) shorter).sublist
      have apart := (checkChains_eq_ok_iff.1 earlier).2.sublist among
      have own := (List.pairwise_append.1 apart).2.2
      exact ChainEntry.not_violates (fun a mem => own a mem c' (List.mem_singleton.2 rfl)) fault
  | chainParts lower =>
      obtain ⟨before', c', after', split', length, fault⟩ := violates_chain_iff.1 wrong'
      obtain ⟨rfl, rest⟩ := List.append_inj (split'.symm.trans split) length
      cases rest
      exact absurd (least _ _ fault) (Nat.not_le_of_lt lower)

end Chains

section Tokens

variable {before tokens : List TokenEntry} {t : TokenEntry} {part : TokenPart} {e : Error}

/-- The checks of one token. -/
def TokenEntry.checkAfter (earlier : List String) (t : TokenEntry) : Except Error Unit := do
  t.check
  checkNew .tokenAddress earlier (Text.lowerCase t.address)

theorem checkTokens_cons (earlier : List String) (t : TokenEntry) (rest : List TokenEntry) :
    checkTokens earlier (t :: rest) =
      (t.checkAfter earlier).bind fun _ => checkTokens (Text.lowerCase t.address :: earlier) rest := by
  rw [checkTokens, TokenEntry.checkAfter]
  cases t.check <;> rfl

theorem isValid_iff_names {s : String} :
    Evm.Address.isValid s = true ↔ ChainKind.evm.Names s :=
  Evm.Address.isValid_iff

theorem parse_standard_eq (text : String) :
    TokenStandard.parse text =
      if text = "ERC20" then .ok .erc20 else .error s!"{text} not supported contract type" := by
  unfold TokenStandard.parse
  simp only [beq_iff_eq]

theorem TokenEntry.check_eq (t : TokenEntry) :
    t.check =
      if Evm.Address.isValid (Text.lowerCase t.address) = false then
        .error (.invalidToken t.address .badAddress)
      else if t.standard ≠ "ERC20" then
        .error (.invalidToken t.address
          (.unknownStandard s!"{t.standard} not supported contract type"))
      else if t.chains = [] then .error (.invalidToken t.address .noChains)
      else .ok () := by
  unfold check
  rw [parse_standard_eq]
  cases Evm.Address.isValid (Text.lowerCase t.address) with
  | false => rfl
  | true =>
    by_cases known : t.standard = "ERC20"
    · cases t.chains <;> simp [known] <;> rfl
    · simp [known]
      rfl

theorem TokenEntry.check_eq_ok_iff {u : Unit} : t.check = .ok u ↔ t.WellFormed := by
  rw [check_eq]
  constructor
  · intro passed
    split at passed
    · cases passed
    next valid =>
    split at passed
    · cases passed
    next known =>
    split at passed
    · cases passed
    next some =>
    exact ⟨isValid_iff_names.1 (by simpa using valid), not_not.1 known, some⟩
  · rintro ⟨valid, known, some⟩
    rw [if_neg (by simpa using isValid_iff_names.2 valid), if_neg (not_not.2 known), if_neg some]

theorem checkTokens_eq_ok_iff {seen : List String} {u : Unit} :
    checkTokens seen tokens = .ok u ↔ (∀ t ∈ tokens, t.WellFormed) ∧
      (∀ t ∈ tokens, Text.lowerCase t.address ∉ seen) ∧ tokens.Pairwise TokenEntry.Apart := by
  -- a token that passes is at a known address to the rest, so the known ones stay general
  induction tokens generalizing seen with
  | nil => simp [checkTokens]
  | cons t rest ih =>
      simp only [checkTokens_cons, TokenEntry.checkAfter, bind_eq_ok_iff, List.forall_mem_cons,
        List.pairwise_cons]
      constructor
      · rintro ⟨_, own, passed⟩
        obtain ⟨_, described, new⟩ := bind_eq_ok_iff.1 own
        obtain ⟨others, later, apart⟩ := ih.1 passed
        refine ⟨⟨TokenEntry.check_eq_ok_iff.1 described, others⟩,
          ⟨checkNew_eq_ok_iff.1 new, fun t mem seen => later t mem (List.mem_cons_of_mem _ seen)⟩, ?_,
          apart⟩
        exact fun a mem same => later a mem (same ▸ List.mem_cons_self ..)
      · rintro ⟨⟨described, others⟩, ⟨new, later⟩, own, apart⟩
        refine ⟨(), bind_eq_ok_iff.2 ⟨(), TokenEntry.check_eq_ok_iff.2 described,
          checkNew_eq_ok_iff.2 new⟩, ih.2 ⟨others, fun a mem seen => ?_, apart⟩⟩
        rcases List.mem_cons.1 seen with same | earlier
        · exact own a mem same.symm
        · exact later a mem earlier

/-- A token is refused for the first of its parts that is wrong. -/
theorem TokenEntry.violates_of_check
    (refused : t.checkAfter (before.map fun a => Text.lowerCase a.address).reverse = .error e) :
    ∃ part, t.Violates before part e ∧
      ∀ part' e', t.Violates before part' e' → part.rank ≤ part'.rank := by
  obtain refused | ⟨_, described, refused⟩ := bind_eq_error_iff.1 refused
  · rw [check_eq] at refused
    split at refused
    · next invalid =>
        cases refused
        refine ⟨.address, .address ?_, fun _ _ _ => Nat.zero_le _⟩
        rw [← isValid_iff_names, invalid]
        decide
    next valid =>
    replace valid := isValid_iff_names.1 (by simpa using valid)
    split at refused
    · next unknown =>
        cases refused
        refine ⟨.standard, .standard unknown, ?_⟩
        rintro _ e' (other | _ | _ | _)
        · exact absurd valid other
        all_goals decide
    next known =>
    split at refused
    · next none =>
        cases refused
        refine ⟨.chains, .chains none, ?_⟩
        rintro _ e' (other | other | _ | _)
        · exact absurd valid other
        · exact absurd other known
        all_goals decide
    · cases refused
  · obtain ⟨valid, known, some⟩ := check_eq_ok_iff.1 described
    obtain ⟨seen, rfl⟩ := checkNew_eq_error_iff.1 refused
    obtain ⟨a, mem, same⟩ := List.mem_map.1 (List.mem_reverse.1 seen)
    refine ⟨.repetition, .repetition mem same, ?_⟩
    rintro _ e' (other | other | none | _)
    · exact absurd valid other
    · exact absurd known other
    · exact absurd none some
    · decide

theorem TokenEntry.not_violates (described : t.WellFormed) (apart : ∀ a ∈ before, a.Apart t) :
    ¬ t.Violates before part e := by
  obtain ⟨valid, known, some⟩ := described
  rintro (other | other | none | ⟨mem, same⟩)
  · exact other valid
  · exact other known
  · exact some none
  · exact apart _ mem same

theorem violates_token_iff {l : Layout} {i : Nat} :
    l.Violates (.token i part) e ↔ ∃ before t after, l.evm.tokens = before ++ t :: after ∧
      before.length = i ∧ t.Violates before part e := by
  constructor
  · intro violates
    cases violates with
    | token split wrong => exact ⟨_, _, _, split, rfl, wrong⟩
  · rintro ⟨before, t, after, split, rfl, wrong⟩
    exact .token split wrong

end Tokens

section Layouts

variable {l : Layout} {p p' : Place} {e e' : Error}

theorem checkClusters_eq_ok_iff {a b : Option Cluster} {u : Unit} :
    checkClusters a b = .ok u ↔ ∀ x y, a = some x → b = some y → x.rpc ≠ y.rpc := by
  cases a <;> cases b <;> simp [checkClusters]

theorem checkClusters_eq_error_iff {a b : Option Cluster} :
    checkClusters a b = .error e ↔ ∃ x y, a = some x ∧ b = some y ∧ x.rpc = y.rpc ∧
      e = .duplicate .clusterEndpoint x.rpc := by
  cases a with
  | none => simp [checkClusters]
  | some x =>
      cases b with
      | none => simp [checkClusters]
      | some y => by_cases same : x.rpc = y.rpc <;> simp [checkClusters, same, eq_comm]

theorem pairwise_tokens_iff {tokens : List TokenEntry} :
    tokens.Pairwise TokenEntry.Apart ↔ (tokens.map fun t => Text.lowerCase t.address).Nodup := by
  rw [List.Nodup, List.pairwise_map]
  rfl

theorem validate_eq (l : Layout) : l.validate =
    (checkChains [] l.evm.chains).bind fun _ => (checkClusters l.solana l.near).bind fun _ =>
      checkTokens [] l.evm.tokens := rfl

/-- The layouts that are accepted are those in which nothing is wrong. -/
theorem validate_eq_ok_iff {u : Unit} : l.validate = .ok u ↔ l.WellFormed := by
  simp only [validate_eq, bind_eq_ok_iff, checkChains_eq_ok_iff, checkClusters_eq_ok_iff,
    checkTokens_eq_ok_iff, pairwise_apart_iff, pairwise_tokens_iff]
  constructor
  · rintro ⟨_, ⟨-, ids, endpoints, names⟩, _, clusters, tokens, -, addresses⟩
    exact ⟨ids, endpoints, names, clusters, tokens, addresses⟩
  · rintro ⟨ids, endpoints, names, clusters, tokens, addresses⟩
    exact ⟨(), ⟨by simp, ids, endpoints, names⟩, (), clusters, tokens, by simp, addresses⟩

/-- The tokens of a layout that was read and checked are at valid addresses, when these are written in
lower case. -/
theorem isValid_of_parse {text : String} (parsed : parse text = .ok l) {t : TokenEntry}
    (mem : t ∈ l.evm.tokens) : Evm.Address.isValid (Text.lowerCase t.address) = true := by
  obtain ⟨-, valid⟩ := parse_eq_ok_iff.1 parsed
  exact isValid_iff_names.2 ((validate_eq_ok_iff.1 valid).tokens t mem).address

/-- In a layout that is accepted no place is wrong. -/
theorem WellFormed.not_violates (wellFormed : l.WellFormed) : ¬ l.Violates p e := by
  have chains := pairwise_apart_iff.2 ⟨wellFormed.chainIds, wellFormed.endpoints, wellFormed.names⟩
  intro wrong
  cases wrong with
  | chain split wrong => exact not_violates_chain chains (.chain split wrong)
  | clusters solana near same => exact wellFormed.clusters _ _ solana near same
  | @token before after t part e split wrong =>
      have apart := pairwise_tokens_iff.2 wellFormed.addresses
      rw [split] at apart
      have own := (List.pairwise_append.1 apart).2.2
      have described := wellFormed.tokens t (by rw [split]; simp)
      exact TokenEntry.not_violates described (fun a mem => own a mem t (List.mem_cons_self ..)) wrong

/-- At one place one error is reported. -/
theorem Violates.unique (wrong : l.Violates p e) (wrong' : l.Violates p e') : e = e' := by
  cases wrong with
  | chain split wrong =>
      obtain ⟨before, c, after, split', length, wrong'⟩ := violates_chain_iff.1 wrong'
      obtain ⟨rfl, rest⟩ := List.append_inj (split'.symm.trans split) length
      cases rest
      cases wrong
      cases wrong'
      rfl
  | clusters solana near same =>
      cases wrong' with
      | clusters solana' near' same' =>
          cases solana.symm.trans solana'
          rfl
  | token split wrong =>
      obtain ⟨before, t, after, split', length, wrong'⟩ := violates_token_iff.1 wrong'
      obtain ⟨rfl, rest⟩ := List.append_inj (split'.symm.trans split) length
      cases rest
      cases wrong <;> cases wrong' <;> rfl

theorem ChainPart.eq_of_rank {part part' : ChainPart} (same : part.rank = part'.rank) :
    part = part' := by
  cases part <;> cases part' <;> first | rfl | cases same

theorem TokenPart.eq_of_rank {part part' : TokenPart} (same : part.rank = part'.rank) :
    part = part' := by
  cases part <;> cases part' <;> first | rfl | cases same

/-- Of two places one comes before the other. -/
theorem Place.eq_or_before (p p' : Place) : p = p' ∨ p.Before p' ∨ p'.Before p := by
  cases p with
  | chain i part =>
      cases p' with
      | chain j part' =>
          rcases Nat.lt_trichotomy i j with less | rfl | more
          · exact .inr (.inl (.chains less))
          · rcases Nat.lt_trichotomy part.rank part'.rank with less | same | more
            · exact .inr (.inl (.chainParts less))
            · exact .inl (congrArg _ (ChainPart.eq_of_rank same))
            · exact .inr (.inr (.chainParts more))
          · exact .inr (.inr (.chains more))
      | clusters => exact .inr (.inl .chainClusters)
      | token j part' => exact .inr (.inl .chainToken)
  | clusters =>
      cases p' with
      | chain j part' => exact .inr (.inr .chainClusters)
      | clusters => exact .inl rfl
      | token j part' => exact .inr (.inl .clustersToken)
  | token i part =>
      cases p' with
      | chain j part' => exact .inr (.inr .chainToken)
      | clusters => exact .inr (.inr .clustersToken)
      | token j part' =>
          rcases Nat.lt_trichotomy i j with less | rfl | more
          · exact .inr (.inl (.tokens less))
          · rcases Nat.lt_trichotomy part.rank part'.rank with less | same | more
            · exact .inr (.inl (.tokenParts less))
            · exact .inl (congrArg _ (TokenPart.eq_of_rank same))
            · exact .inr (.inr (.tokenParts more))
          · exact .inr (.inr (.tokens more))

/-- A layout has one first place that is wrong. -/
theorem FirstViolation.unique (first : l.FirstViolation p e) (first' : l.FirstViolation p' e') :
    e = e' := by
  rcases Place.eq_or_before p p' with rfl | before | after
  · exact first.wrong.unique first'.wrong
  · exact absurd before (first'.first p e first.wrong)
  · exact absurd after (first.first p' e' first'.wrong)

/-- The first token that is refused is the first place that is wrong, if the chains and clusters are
not. -/
theorem firstViolation_of_checkTokens (chains : checkChains [] l.evm.chains = .ok ())
    (clusters : checkClusters l.solana l.near = .ok ())
    (refused : checkTokens [] l.evm.tokens = .error e) : ∃ p, l.FirstViolation p e := by
  obtain ⟨before, t, after, split, earlier, refused⟩ :=
    (scan_eq_error_iff (fun _ => rfl) checkTokens_cons).1 refused
  rw [List.append_nil] at refused
  obtain ⟨described, -, apart⟩ := checkTokens_eq_ok_iff.1 earlier
  obtain ⟨part, wrong, least⟩ := t.violates_of_check refused
  refine ⟨.token before.length part, .token split wrong, ?_⟩
  intro p' e' wrong' order
  cases order with
  | chainToken => exact not_violates_chain (checkChains_eq_ok_iff.1 chains).2 wrong'
  | clustersToken =>
      cases wrong' with
      | clusters solana near same => exact checkClusters_eq_ok_iff.1 clusters _ _ solana near same
  | tokens shorter =>
      obtain ⟨before', t', after', split', rfl, fault⟩ := violates_token_iff.1 wrong'
      have among := (prefix_of_split (split'.symm.trans split) shorter).sublist
      have own := (List.pairwise_append.1 (apart.sublist among)).2.2
      have last : t' ∈ before := among.subset (by simp)
      refine TokenEntry.not_violates (described t' last) (fun a mem => ?_) fault
      exact own a mem t' (List.mem_singleton.2 rfl)
  | tokenParts lower =>
      obtain ⟨before', t', after', split', length, fault⟩ := violates_token_iff.1 wrong'
      obtain ⟨rfl, rest⟩ := List.append_inj (split'.symm.trans split) length
      cases rest
      exact absurd (least _ _ fault) (Nat.not_le_of_lt lower)

theorem firstViolation_of_validate (refused : l.validate = .error e) : ∃ p, l.FirstViolation p e := by
  rw [validate_eq] at refused
  obtain refused | ⟨_, chains, refused⟩ := bind_eq_error_iff.1 refused
  · exact firstViolation_of_checkChains refused
  obtain refused | ⟨_, clusters, refused⟩ := bind_eq_error_iff.1 refused
  · obtain ⟨a, b, solana, near, same, rfl⟩ := checkClusters_eq_error_iff.1 refused
    refine ⟨.clusters, .clusters solana near same, ?_⟩
    rintro p' e' wrong' ⟨⟩
    exact not_violates_chain (checkChains_eq_ok_iff.1 chains).2 wrong'
  · exact firstViolation_of_checkTokens chains clusters refused

/-- A layout is accepted if and only if nothing in it is wrong; otherwise what is reported is the first
place that is wrong, in the order in which places are checked. -/
theorem accepted_or_first_violation :
    (l.validate = .ok () ↔ l.WellFormed) ∧
      ∀ e, l.validate = .error e ↔ ∃ p, l.FirstViolation p e := by
  refine ⟨validate_eq_ok_iff, fun e => ⟨firstViolation_of_validate, ?_⟩⟩
  rintro ⟨p, first⟩
  cases outcome : l.validate with
  | ok _ => exact absurd first.wrong (validate_eq_ok_iff.1 outcome).not_violates
  | error e' =>
      obtain ⟨p', first'⟩ := firstViolation_of_validate outcome
      rw [first'.unique first]

end Layouts

end TokenFaucet.Layout
