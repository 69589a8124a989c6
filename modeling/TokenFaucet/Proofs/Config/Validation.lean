import Mathlib.Data.List.Pairwise
import TokenFaucet.Config.Validation
import TokenFaucet.Proofs.Result

set_option autoImplicit false

namespace TokenFaucet.Layout

/-- The descriptions of two chains have nothing in common that may occur once only. -/
structure ChainEntry.Apart (a b : ChainEntry) : Prop where
  chainId : a.chainId ≠ b.chainId
  rpc : a.rpc ≠ b.rpc
  name : a.name ≠ b.name

instance : Std.Symm ChainEntry.Apart where
  symm _ _ apart := ⟨apart.chainId.symm, apart.rpc.symm, apart.name.symm⟩

variable {earlier entries : List ChainEntry} {l : Layout}

theorem checkNew_eq_ok_iff {what : Unique} {values : List String} {value : String} {u : Unit} :
    checkNew what values value = .ok u ↔ value ∉ values := by
  unfold checkNew
  cases seen : values.contains value <;> simpa using seen

theorem checkNew_chain_iff {c : ChainEntry} :
    (checkNew .evmChainId (earlier.map (·.chainId)) c.chainId = .ok () ∧
      checkNew .evmEndpoint (earlier.map (·.rpc)) c.rpc = .ok () ∧
      checkNew .evmChainName (earlier.map (·.name)) c.name = .ok ()) ↔
        ∀ a ∈ earlier, a.Apart c := by
  simp only [checkNew_eq_ok_iff, List.mem_map, not_exists, not_and]
  constructor
  · intro new a mem
    exact ⟨new.1 a mem, new.2.1 a mem, new.2.2 a mem⟩
  · intro apart
    exact ⟨fun a mem => (apart a mem).chainId, fun a mem => (apart a mem).rpc,
      fun a mem => (apart a mem).name⟩

theorem checkChains_cons_iff {c : ChainEntry} {u : Unit} :
    checkChains earlier (c :: entries) = .ok u ↔
      (∀ a ∈ earlier, a.Apart c) ∧ checkChains (c :: earlier) entries = .ok u := by
  rw [← checkNew_chain_iff]
  constructor
  · intro passed
    obtain ⟨_, ids, passed⟩ := bind_eq_ok_iff.1 passed
    obtain ⟨_, endpoints, passed⟩ := bind_eq_ok_iff.1 passed
    obtain ⟨_, names, passed⟩ := bind_eq_ok_iff.1 passed
    exact ⟨⟨ids, endpoints, names⟩, passed⟩
  · rintro ⟨⟨ids, endpoints, names⟩, passed⟩
    refine bind_eq_ok_iff.2 ⟨(), ids, bind_eq_ok_iff.2 ⟨(), endpoints, ?_⟩⟩
    exact bind_eq_ok_iff.2 ⟨(), names, passed⟩

/-- Chains pass if each is apart from those already passed and from each other. -/
theorem checkChains_eq_ok_iff {u : Unit} :
    checkChains earlier entries = .ok u ↔
      (∀ a ∈ earlier, ∀ b ∈ entries, a.Apart b) ∧ entries.Pairwise ChainEntry.Apart := by
  -- a chain that passes is an earlier one to the rest, so the earlier ones stay general
  induction entries generalizing earlier with
  | nil => simp [checkChains]
  | cons c rest ih =>
      rw [checkChains_cons_iff, ih, List.pairwise_cons]
      simp only [List.forall_mem_cons]
      constructor
      · rintro ⟨new, ⟨own, others⟩, apart⟩
        exact ⟨fun a mem => ⟨new a mem, others a mem⟩, own, apart⟩
      · rintro ⟨new, own, apart⟩
        exact ⟨fun a mem => (new a mem).1, ⟨own, fun a mem => (new a mem).2⟩, apart⟩

theorem parse_eq_ok_iff {text : String} :
    parse text = .ok l ↔ read text = .ok l ∧ l.validate = .ok () := by
  unfold parse
  constructor
  · intro parsed
    obtain ⟨l', read, parsed⟩ := bind_eq_ok_iff.1 parsed
    obtain ⟨_, valid, same⟩ := bind_eq_ok_iff.1 parsed
    cases same
    exact ⟨read, valid⟩
  · rintro ⟨read, valid⟩
    exact bind_eq_ok_iff.2 ⟨l, read, bind_eq_ok_iff.2 ⟨(), valid, rfl⟩⟩

/-- The EVM chains of a layout that was read and checked are written apart from each other. -/
theorem apart_of_parse {text : String} (parsed : parse text = .ok l) {a b : ChainEntry}
    (mem : a ∈ l.evm.chains) (mem' : b ∈ l.evm.chains) (other : a ≠ b) : a.Apart b := by
  obtain ⟨-, valid⟩ := parse_eq_ok_iff.1 parsed
  obtain ⟨_, chains, -⟩ := bind_eq_ok_iff.1 valid
  have apart := (checkChains_eq_ok_iff.1 chains).2
  exact apart.forall mem mem' other

end TokenFaucet.Layout
