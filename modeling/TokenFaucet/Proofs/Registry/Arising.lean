import Mathlib.Data.List.Induction
import TokenFaucet.Proofs.Networks.Loaded
import TokenFaucet.Proofs.Registry

set_option autoImplicit false

namespace TokenFaucet

namespace ChainRegistry

/-- Registrations that succeeded, one after another. -/
inductive Arises : ChainRegistry → Prop where
  | empty : Arises .empty
  | insert {r r' : ChainRegistry} {c : Chain} (earlier : Arises r) (inserted : r.insert c = .ok r') :
    Arises r'

variable {r : ChainRegistry}

theorem Arises.holds (arises : r.Arises) : r.Holds fun _ => True := by
  induction arises with
  | empty => exact holds_empty
  | insert _ inserted ih => exact ih.insert trivial inserted

theorem Arises.get {kind : ChainKind} {id : String} {c : Chain} (arises : r.Arises)
    (found : r.get? kind id = some c) : c.kind = kind ∧ c.id = id := by
  obtain ⟨family, name, -⟩ := arises.holds.get found
  exact ⟨family, name⟩

end ChainRegistry

namespace TokenRegistry

/-- Registrations that succeeded, one after another, of tokens that list each of their chains once and
in ascending order. -/
inductive Arises : TokenRegistry → Prop where
  | empty : Arises .empty
  | insert {r r' : TokenRegistry} {t : Token} (earlier : Arises r) (chains : t.chains.Pairwise (· < ·))
    (inserted : r.insert t = .ok r') : Arises r'

variable {r : TokenRegistry}

/-- What holds after every registration. -/
structure InOrder (r : TokenRegistry) : Prop where
  rows : r.rows.Pairwise fun x y => x.1 < y.1
  keyed : ∀ row ∈ r.rows, row.2.address = row.1
  chains : ∀ row ∈ r.rows, row.2.chains.Pairwise (· < ·)

theorem InOrder.insert {r' : TokenRegistry} {t : Token} (inOrder : r.InOrder)
    (chains : t.chains.Pairwise (· < ·)) (inserted : r.insert t = .ok r') : r'.InOrder := by
  unfold TokenRegistry.insert at inserted
  dsimp only at inserted
  split at inserted
  · cases inserted
  · cases inserted
    refine ⟨Table.put_ordered inOrder.rows, fun row mem => ?_, fun row mem => ?_⟩
    · obtain rfl | earlier := Table.mem_put mem
      · rfl
      · exact inOrder.keyed row earlier
    · obtain rfl | earlier := Table.mem_put mem
      · exact chains
      · exact inOrder.chains row earlier

theorem Arises.inOrder (arises : r.Arises) : r.InOrder := by
  induction arises with
  | empty => exact ⟨.nil, nofun, nofun⟩
  | insert _ chains inserted ih => exact ih.insert chains inserted

theorem Arises.addresses (arises : r.Arises) :
    r.toList.Pairwise fun t t' => t.address < t'.address := by
  have inOrder := arises.inOrder
  rw [toList, List.pairwise_map]
  refine inOrder.rows.imp_of_mem fun mem mem' less => ?_
  rwa [inOrder.keyed _ mem, inOrder.keyed _ mem']

theorem Arises.chains (arises : r.Arises) {t : Token} (mem : t ∈ r.toList) :
    t.chains.Pairwise (· < ·) := by
  obtain ⟨row, among, rfl⟩ := List.mem_map.1 mem
  exact arises.inOrder.chains row among

end TokenRegistry

/-- A registry: rows under keys, and entries of which each becomes a row unless there is one under its
key already. -/
structure Registry (ρ σ κ α ε : Type) where
  empty : ρ
  rows : ρ → List (κ × α)
  insert : ρ → σ → Except ε ρ
  /-- What an entry becomes. -/
  row : σ → κ × α
  refusal : σ → ε
  /-- The order of the keys. -/
  before : κ → κ → Bool

namespace Registry

variable {ρ σ κ α ε : Type}

/-- A registry and the entries that it took, after one more entry that it may refuse. -/
def step (g : Registry ρ σ κ α ε) (state : ρ × List σ) (s : σ) : ρ × List σ :=
  match g.insert state.1 s with
  | .ok r => (r, state.2 ++ [s])
  | .error _ => state

def run (g : Registry ρ σ κ α ε) (history : List σ) : ρ × List σ :=
  history.foldl g.step (g.empty, [])

/-- The registry after a history of insertions. -/
def after (g : Registry ρ σ κ α ε) (history : List σ) : ρ :=
  (g.run history).1

/-- The entries of a history that the registry took, in their order. -/
def taken (g : Registry ρ σ κ α ε) (history : List σ) : List σ :=
  (g.run history).2

/-- What makes a registry one: it takes what is new, and puts it in its place. -/
structure Lawful (g : Registry ρ σ κ α ε) : Prop where
  empty : g.rows g.empty = []
  refuses : ∀ r s, (g.row s).1 ∈ (g.rows r).map (·.1) → g.insert r s = .error (g.refusal s)
  takes : ∀ r s, (g.row s).1 ∉ (g.rows r).map (·.1) →
    ∃ r', g.insert r s = .ok r' ∧ g.rows r' = Table.put g.before (g.row s).1 (g.row s).2 (g.rows r)
  irrefl : ∀ k, g.before k k = false
  trans : ∀ a b c, g.before a b = true → g.before b c = true → g.before a c = true
  total : ∀ a b, g.before a b = false → g.before b a = false → a = b

/-- What holds of a registry after a history of insertions. -/
structure Kept [BEq κ] (g : Registry ρ σ κ α ε) (history : List σ) (state : ρ × List σ) : Prop where
  found : ∀ k, Table.find? k (g.rows state.1) =
    (history.find? fun s => (g.row s).1 == k).map fun s => (g.row s).2
  rows : (g.rows state.1).Perm (state.2.map g.row)
  ordered : (g.rows state.1).Pairwise fun x y => g.before x.1 y.1 = true

variable {g : Registry ρ σ κ α ε} {history : List σ} {state : ρ × List σ}

theorem run_snoc (g : Registry ρ σ κ α ε) (history : List σ) (s : σ) :
    g.run (history ++ [s]) = g.step (g.run history) s :=
  List.foldl_concat ..

theorem step_of_refused {s : σ} {e : ε} (refused : g.insert state.1 s = .error e) :
    g.step state s = state := by
  rw [step, refused]

theorem step_of_taken {s : σ} {r : ρ} (taken : g.insert state.1 s = .ok r) :
    g.step state s = (r, state.2 ++ [s]) := by
  rw [step, taken]

section Keys

variable [BEq κ]

/-- The keys of a registry are those of the entries that it took. -/
theorem Kept.mem_keys_iff (kept : g.Kept history state) {k : κ} :
    k ∈ (g.rows state.1).map (·.1) ↔ ∃ s ∈ state.2, (g.row s).1 = k := by
  rw [(kept.rows.map _).mem_iff, List.map_map, List.mem_map]
  rfl

theorem Kept.start (lawful : g.Lawful) : g.Kept [] (g.empty, []) := by
  constructor
  · intro k
    rw [lawful.empty]
    rfl
  · rw [lawful.empty]
    exact .refl _
  · rw [lawful.empty]
    exact .nil

variable [LawfulBEq κ]

theorem Kept.step (lawful : g.Lawful) (kept : g.Kept history state) (s : σ) :
    g.Kept (history ++ [s]) (g.step state s) := by
  by_cases old : (g.row s).1 ∈ (g.rows state.1).map (·.1)
  · rw [step_of_refused (lawful.refuses _ s old)]
    refine ⟨fun k => ?_, kept.rows, kept.ordered⟩
    rw [kept.found k, List.find?_append, List.find?_singleton]
    by_cases own : (g.row s).1 = k
    -- an entry before this one has the key, and the first of them is found
    · have present := kept.found k
      rw [own] at old
      cases first : history.find? fun s => (g.row s).1 == k with
      | some s' => rfl
      | none =>
          rw [first, Option.map_none, Table.find?_eq_none_iff] at present
          exact absurd old present
    · rw [if_neg (by simpa using own), Option.or_none]
  · obtain ⟨r, inserted, rows⟩ := lawful.takes _ s old
    rw [step_of_taken inserted]
    refine ⟨fun k => ?_, ?_, ?_⟩
    · rw [rows, Table.find?_put lawful.total lawful.irrefl, kept.found k, List.find?_append,
        List.find?_singleton]
      by_cases own : (g.row s).1 = k
      · subst own
        have absent := kept.found (g.row s).1
        rw [Table.find?_eq_none_iff.2 old, eq_comm, Option.map_eq_none_iff] at absent
        rw [absent]
        simp
      · have other : ¬ k = (g.row s).1 := Ne.symm own
        simp [own, other]
    · rw [rows, List.map_append, List.map_singleton]
      exact (Table.put_perm lawful.total old).trans
        ((kept.rows.cons _).trans (List.perm_append_singleton ..).symm)
    · rw [rows]
      exact Table.put_pairwise lawful.total lawful.trans kept.ordered

theorem kept_of_run (lawful : g.Lawful) (history : List σ) : g.Kept history (g.run history) := by
  induction history using List.reverseRecOn with
  | nil => exact .start lawful
  | append_singleton history s ih =>
      rw [run_snoc]
      exact ih.step lawful s

end Keys

/-- How a registry goes through a history of insertions: the next entry is refused if one with its key
was taken, and then nothing changes; what is under a key is the first entry of the history that has it;
and the rows are those of the entries taken, each once, in the order of their keys. -/
structure FirstWins [BEq κ] (g : Registry ρ σ κ α ε) (history : List σ) : Prop where
  refused_iff : ∀ s, g.insert (g.after history) s = .error (g.refusal s) ↔
    ∃ s' ∈ g.taken history, (g.row s').1 = (g.row s).1
  answered : ∀ s,
    (g.insert (g.after history) s = .error (g.refusal s) ∧
      g.after (history ++ [s]) = g.after history ∧ g.taken (history ++ [s]) = g.taken history) ∨
    (g.insert (g.after history) s = .ok (g.after (history ++ [s])) ∧
      g.taken (history ++ [s]) = g.taken history ++ [s])
  found : ∀ k, Table.find? k (g.rows (g.after history)) =
    (history.find? fun s => (g.row s).1 == k).map fun s => (g.row s).2
  rows : (g.rows (g.after history)).Perm ((g.taken history).map g.row)
  ordered : (g.rows (g.after history)).Pairwise fun x y => g.before x.1 y.1 = true

theorem firstWins [BEq κ] [LawfulBEq κ] (lawful : g.Lawful) (history : List σ) :
    g.FirstWins history := by
  have kept := kept_of_run lawful history
  have next (s : σ) : g.run (history ++ [s]) = g.step (g.run history) s := g.run_snoc history s
  refine ⟨fun s => ?_, fun s => ?_, kept.found, kept.rows, kept.ordered⟩
  · by_cases old : (g.row s).1 ∈ (g.rows (g.after history)).map (·.1)
    · exact iff_of_true (lawful.refuses _ s old) (kept.mem_keys_iff.1 old)
    · obtain ⟨r, inserted, -⟩ := lawful.takes _ s old
      rw [inserted]
      exact iff_of_false nofun (mt kept.mem_keys_iff.2 old)
  · by_cases old : (g.row s).1 ∈ (g.rows (g.after history)).map (·.1)
    · have refused := lawful.refuses _ s old
      have same := (next s).trans (step_of_refused refused)
      exact .inl ⟨refused, congrArg Prod.fst same, congrArg Prod.snd same⟩
    · obtain ⟨r, inserted, -⟩ := lawful.takes _ s old
      have more := (next s).trans (step_of_taken inserted)
      refine .inr ⟨?_, congrArg Prod.snd more⟩
      rw [inserted]
      exact congrArg Except.ok (congrArg Prod.fst more).symm

section Values

variable [BEq κ] (first : g.FirstWins history)
include first

/-- What a registry lists, without the keys. -/
theorem FirstWins.values_perm :
    ((g.rows (g.after history)).map (·.2)).Perm ((g.taken history).map fun s => (g.row s).2) := by
  have values := first.rows.map (·.2)
  rwa [List.map_map] at values

/-- Where every value tells its key, the values are listed in the order of these. -/
theorem FirstWins.values_ordered (key : α → κ) (own : ∀ s, (g.row s).1 = key (g.row s).2) :
    ((g.rows (g.after history)).map (·.2)).Pairwise fun a b => g.before (key a) (key b) = true := by
  have keyed : ∀ row ∈ g.rows (g.after history), row.1 = key row.2 := by
    intro row mem
    obtain ⟨s, -, rfl⟩ := List.mem_map.1 (first.rows.mem_iff.1 mem)
    exact own s
  rw [List.pairwise_map]
  refine first.ordered.imp_of_mem fun mem mem' less => ?_
  rwa [← keyed _ mem, ← keyed _ mem']

end Values

end Registry

/-- A token as it is registered. -/
def Token.lowered (t : Token) : Token :=
  { t with address := Text.lowerCase t.address }

namespace TokenRegistry

/-- Tokens, each under its address in lower case. -/
def registry : Registry TokenRegistry Token String Token RegistryError where
  empty := .empty
  rows := rows
  insert := insert
  row t := (t.lowered.address, t.lowered)
  refusal t := .duplicateToken (Text.lowerCase t.address)
  before a b := decide (a < b)

theorem lawful_registry : registry.Lawful where
  empty := rfl
  refuses := by
    intro r t old
    have found : Table.find? (Text.lowerCase t.address) r.rows ≠ none :=
      fun none => Table.find?_eq_none_iff.1 none old
    obtain ⟨t', found⟩ := Option.ne_none_iff_exists'.1 found
    change r.insert t = _
    rw [insert, found]
    rfl
  takes := by
    intro r t new
    have absent : Table.find? (Text.lowerCase t.address) r.rows = none :=
      Table.find?_eq_none_iff.2 new
    refine ⟨_, ?_, rfl⟩
    change r.insert t = _
    rw [insert, absent]
    rfl
  irrefl := Table.byText_irrefl
  trans := Table.byText_trans
  total := Table.byText_total

end TokenRegistry

namespace ChainRegistry

/-- Chains, each under its family and id. -/
def registry : Registry ChainRegistry Chain (ChainKind × String) Chain RegistryError where
  empty := .empty
  rows := rows
  insert := insert
  row c := (c.key, c)
  refusal c := .duplicateChain c.kind c.id
  before := before

theorem before_iff (a b : ChainKind × String) :
    before a b = true ↔ a.1.rank < b.1.rank ∨ a.1 = b.1 ∧ a.2 < b.2 := by
  simp only [before, Bool.or_eq_true, decide_eq_true_eq, Bool.and_eq_true, beq_iff_eq]

theorem before_irrefl (a : ChainKind × String) : before a a = false := by
  rw [← Bool.not_eq_true, before_iff]
  rintro (less | ⟨-, less⟩)
  · exact absurd less (Nat.lt_irrefl _)
  · exact absurd less (String.lt_irrefl _)

theorem before_trans (a b c : ChainKind × String) (less : before a b = true)
    (more : before b c = true) : before a c = true := by
  rw [before_iff] at less more ⊢
  rcases less with less | ⟨family, less⟩
  · rcases more with more | ⟨family', -⟩
    · exact .inl (Nat.lt_trans less more)
    · exact .inl (family' ▸ less)
  · rcases more with more | ⟨family', more⟩
    · exact .inl (family ▸ more)
    · exact .inr ⟨family.trans family', String.lt_trans less more⟩

theorem lawful_registry : registry.Lawful where
  empty := rfl
  refuses := by
    intro r c old
    have found : r.get? c.kind c.id ≠ none := fun none => Table.find?_eq_none_iff.1 none old
    obtain ⟨c', found⟩ := Option.ne_none_iff_exists'.1 found
    change r.insert c = _
    rw [insert, found]
    rfl
  takes := by
    intro r c new
    have absent : r.get? c.kind c.id = none := Table.find?_eq_none_iff.2 new
    refine ⟨_, ?_, rfl⟩
    change r.insert c = _
    rw [insert, absent]
    rfl
  irrefl := before_irrefl
  trans := before_trans
  total := before_total

end ChainRegistry

/-- After any history of registrations, from empty registries on: an entry is refused if and only if one
with its key was registered before, a token's being its address in lower case and a chain's its family
and id, and a refused entry changes nothing; what is found is the first entry of the history with the
key, and nothing under any other; and what is listed are the entries that were registered, each once, as
many as they are, in the order of their keys. -/
theorem first_registration_counts :
    (∀ history : List Token,
      TokenRegistry.registry.FirstWins history ∧
      (∀ address : String, (TokenRegistry.registry.after history).get? address =
        (history.find? fun t => Text.lowerCase t.address == Text.lowerCase address).map
          Token.lowered) ∧
      (TokenRegistry.registry.after history).toList.length =
        (TokenRegistry.registry.taken history).length ∧
      (TokenRegistry.registry.after history).toList.Perm
        ((TokenRegistry.registry.taken history).map Token.lowered) ∧
      (TokenRegistry.registry.after history).toList.Pairwise fun t t' => t.address < t'.address) ∧
    ∀ history : List Chain,
      ChainRegistry.registry.FirstWins history ∧
      (∀ (kind : ChainKind) (id : String), (ChainRegistry.registry.after history).get? kind id =
        history.find? fun c => c.kind == kind && c.id == id) ∧
      (ChainRegistry.registry.after history).toList.length =
        (ChainRegistry.registry.taken history).length ∧
      (ChainRegistry.registry.after history).toList.Perm (ChainRegistry.registry.taken history) ∧
      (ChainRegistry.registry.after history).toList.Pairwise fun c c' =>
        c.kind.rank < c'.kind.rank ∨ c.kind = c'.kind ∧ c.id < c'.id := by
  constructor
  · intro history
    have first := Registry.firstWins TokenRegistry.lawful_registry history
    have listed := first.values_perm
    refine ⟨first, fun address => first.found (Text.lowerCase address), ?_, listed, ?_⟩
    · exact listed.length_eq.trans (List.length_map _)
    · have ordered := first.values_ordered Token.address fun _ => rfl
      exact ordered.imp fun less => of_decide_eq_true less
  · intro history
    have first := Registry.firstWins ChainRegistry.lawful_registry history
    have listed := first.values_perm
    rw [show (fun c => (ChainRegistry.registry.row c).2) = (id : Chain → Chain) from rfl,
      List.map_id] at listed
    refine ⟨first, fun kind id => ?_, listed.length_eq, listed, ?_⟩
    · exact (first.found (kind, id)).trans Option.map_id'
    · have ordered := first.values_ordered Chain.key fun _ => rfl
      exact ordered.imp fun less => (ChainRegistry.before_iff _ _).1 less

end TokenFaucet
