import TokenFaucet.Networks.Build
import TokenFaucet.Proofs.Config.Faults
import TokenFaucet.Proofs.Result
import TokenFaucet.Proofs.Table
import TokenFaucet.Proofs.Text.LowerCase

set_option autoImplicit false

namespace TokenFaucet

/-- What a chain is registered under. -/
def Chain.key (c : Chain) : ChainKind × String :=
  (c.kind, c.id)

namespace ChainRegistry

variable {r : ChainRegistry} {c : Chain} {cs : List Chain}

theorem before_total (a b : ChainKind × String) (notLess : before a b = false)
    (notMore : before b a = false) : a = b := by
  obtain ⟨kind, id⟩ := a
  obtain ⟨kind', id'⟩ := b
  simp only [before, Bool.or_eq_false_iff, decide_eq_false_iff_not, Bool.and_eq_false_imp,
    beq_iff_eq] at notLess notMore
  obtain rfl : kind = kind' :=
    ChainKind.rank_injective (Nat.le_antisymm (Nat.not_lt.1 notMore.1) (Nat.not_lt.1 notLess.1))
  rw [Table.byText_total id id' (decide_eq_false (notLess.2 rfl)) (decide_eq_false (notMore.2 rfl))]

theorem insert_of_new (new : c.key ∉ r.rows.map (·.1)) :
    ∃ r', r.insert c = .ok r' ∧ r'.rows.Perm ((c.key, c) :: r.rows) := by
  have absent : r.get? c.kind c.id = none := Table.find?_eq_none_iff.2 new
  refine ⟨_, ?_, Table.put_perm before_total new⟩
  rw [insert, absent]
  rfl

theorem insertAll_of_nodup (nodup : (cs.map Chain.key).Nodup)
    (new : ∀ c ∈ cs, c.key ∉ r.rows.map (·.1)) :
    ∃ r', r.insertAll cs = .ok r' ∧ r'.rows.Perm (cs.map (fun c => (c.key, c)) ++ r.rows) := by
  -- what is registered already is new to the rest, so the registry stays general
  induction cs generalizing r with
  | nil => exact ⟨r, rfl, .refl _⟩
  | cons c rest ih =>
      obtain ⟨other, nodup⟩ := List.nodup_cons.1 nodup
      obtain ⟨middle, first, rows⟩ := insert_of_new (new c (List.mem_cons_self ..))
      have fresh (c' : Chain) (mem : c' ∈ rest) : c'.key ∉ middle.rows.map (·.1) := by
        rw [(rows.map _).mem_iff, List.map_cons, List.mem_cons, not_or]
        refine ⟨fun same => other ?_, new c' (List.mem_cons_of_mem _ mem)⟩
        exact List.mem_map.2 ⟨c', mem, same⟩
      obtain ⟨r', later, all⟩ := ih nodup fresh
      refine ⟨r', bind_eq_ok_iff.2 ⟨middle, first, later⟩, all.trans ?_⟩
      exact (rows.append_left _).trans List.perm_middle

/-- Chains with keys of their own are all registered, and each is found under its key. -/
theorem insertAll_empty_of_nodup (nodup : (cs.map Chain.key).Nodup) :
    ∃ r', empty.insertAll cs = .ok r' ∧ r'.toList.Perm cs ∧
      ∀ c ∈ cs, r'.get? c.kind c.id = some c := by
  obtain ⟨r', inserted, rows⟩ := insertAll_of_nodup (r := empty) nodup fun _ _ => List.not_mem_nil
  rw [empty, List.append_nil] at rows
  refine ⟨r', inserted, ?_, fun c mem => ?_⟩
  · have chains := rows.map (·.2)
    rwa [List.map_map, show (·.2) ∘ (fun c : Chain => (c.key, c)) = id from rfl, List.map_id] at chains
  · have keys := (rows.map (·.1)).nodup_iff.2 (by rw [List.map_map]; exact nodup)
    exact Table.find?_of_nodup keys (rows.mem_iff.2 (List.mem_map.2 ⟨c, mem, rfl⟩))

end ChainRegistry

/-- A token is the one that an entry describes: at the address in lower case, and on the chains that the
entry lists, each once. -/
structure Token.StandsFor (e : Layout.TokenEntry) (t : Token) : Prop where
  address : t.address = Text.lowerCase e.address
  symbol : t.symbol = e.symbol
  name : t.name = e.name
  standard : TokenStandard.parse e.standard = .ok t.standard
  decimals : t.decimals = e.decimals
  chains : ∀ id, id ∈ t.chains ↔ id ∈ e.chains
  ordered : t.chains.Pairwise (· < ·)

namespace Layout.TokenEntry

variable {e : TokenEntry}

/-- An address is written without a sigma. -/
theorem sigma_not_mem (names : ChainKind.evm.Names (Text.lowerCase e.address)) :
    'Σ' ∉ e.address.toList := by
  obtain ⟨ds, written, -, digits, -⟩ := names
  intro mem
  have lowered := Text.sigma_mem_lowerCase mem
  rw [written, String.toList_append, String.toList_ofList, String.toList_ofList] at lowered
  have other (c : Char) (sigma : c = 'σ' ∨ c = 'ς') : c ∉ ['0', 'x'] ++ ds := by
    intro found
    rcases List.mem_append.1 found with mark | digit
    · rcases sigma with rfl | rfl <;> revert mark <;> decide
    · have known := digits c digit
      rcases sigma with rfl | rfl <;> revert known <;> decide
  rcases lowered with found | found
  · exact other _ (.inl rfl) found
  · exact other _ (.inr rfl) found

/-- The address in any case is the same address. -/
theorem WellFormed.lowerCase_eq (described : e.WellFormed) {address : String}
    (same : Text.sameIgnoringAsciiCase address e.address = true) :
    Text.lowerCase address = Text.lowerCase e.address :=
  Text.lowerCase_eq_of_sameIgnoringAsciiCase same (sigma_not_mem described.address)

end Layout.TokenEntry

namespace TokenRegistry

variable {r : TokenRegistry}

theorem insert_of_new {t : Token} (new : Text.lowerCase t.address ∉ r.rows.map (·.1)) :
    ∃ r', r.insert t = .ok r' ∧
      r'.rows.Perm ((Text.lowerCase t.address, { t with address := Text.lowerCase t.address }) ::
        r.rows) := by
  have absent := Table.find?_eq_none_iff.2 new
  refine ⟨_, ?_, Table.put_perm Table.byText_total new⟩
  rw [insert, absent]

end TokenRegistry

namespace Networks

variable {entries : List Layout.TokenEntry} {r : TokenRegistry} {ts : List Token}

theorem addresses_of_standsFor (stand : List.Forall₂ (fun e t => Token.StandsFor e t) entries ts) :
    ts.map (·.address) = entries.map fun e => Text.lowerCase e.address := by
  rw [← List.forall₂_eq_eq_eq, List.forall₂_map_left_iff, List.forall₂_map_right_iff]
  exact (stand.imp fun _ _ own => own.address).flip

theorem registerTokens_of_nodup (described : ∀ e ∈ entries, e.WellFormed)
    (nodup : (entries.map fun e => Text.lowerCase e.address).Nodup)
    (new : ∀ e ∈ entries, Text.lowerCase e.address ∉ r.rows.map (·.1)) :
    ∃ r' ts, registerTokens r entries = .ok r' ∧
      List.Forall₂ (fun e t => Token.StandsFor e t) entries ts ∧
      r'.rows.Perm (ts.map (fun t => (t.address, t)) ++ r.rows) := by
  induction entries generalizing r with
  | nil => exact ⟨r, [], rfl, .nil, .refl _⟩
  | cons e rest ih =>
      obtain ⟨other, nodup⟩ := List.nodup_cons.1 nodup
      have known : TokenStandard.parse e.standard = .ok .erc20 := by
        rw [Layout.parse_standard_eq, (described e (List.mem_cons_self ..)).standard, if_pos rfl]
      let t : Token := ⟨e.address, e.symbol, e.name, .erc20, e.decimals, Table.sortedWords e.chains⟩
      obtain ⟨middle, first, rows⟩ :=
        TokenRegistry.insert_of_new (t := t) (new e (List.mem_cons_self ..))
      have fresh (e' : Layout.TokenEntry) (mem : e' ∈ rest) :
          Text.lowerCase e'.address ∉ middle.rows.map (·.1) := by
        rw [(rows.map _).mem_iff, List.map_cons, List.mem_cons, not_or]
        refine ⟨fun same => other ?_, new e' (List.mem_cons_of_mem _ mem)⟩
        exact List.mem_map.2 ⟨e', mem, same⟩
      obtain ⟨r', ts, later, stand, all⟩ :=
        ih (fun e mem => described e (List.mem_cons_of_mem _ mem)) nodup fresh
      have own : Token.StandsFor e { t with address := Text.lowerCase e.address } :=
        ⟨rfl, rfl, rfl, known, rfl, fun _ => Table.mem_sortedWords, Table.sortedWords_ordered _⟩
      refine ⟨r', _ :: ts, ?_, .cons own stand, all.trans ?_⟩
      · exact bind_eq_ok_iff.2 ⟨_, mapError_eq_ok_iff.2 known,
          bind_eq_ok_iff.2 ⟨middle, mapError_eq_ok_iff.2 first, later⟩⟩
      · exact (rows.append_left _).trans List.perm_middle

/-- Well-described tokens with addresses of their own are all registered, and each is found under its
address in any case. -/
theorem buildTokens_of_wellFormed {l : Layout} (described : ∀ e ∈ l.evm.tokens, e.WellFormed)
    (nodup : (l.evm.tokens.map fun e => Text.lowerCase e.address).Nodup) :
    ∃ r ts, buildTokens l = .ok r ∧
      List.Forall₂ (fun e t => Token.StandsFor e t) l.evm.tokens ts ∧ r.toList.Perm ts ∧
      ∀ e ∈ l.evm.tokens, ∀ address, Text.sameIgnoringAsciiCase address e.address = true →
        ∃ t, r.get? address = some t ∧ t.StandsFor e := by
  obtain ⟨r, ts, registered, stand, rows⟩ :=
    registerTokens_of_nodup (r := .empty) described nodup fun _ _ => List.not_mem_nil
  rw [TokenRegistry.empty, List.append_nil] at rows
  refine ⟨r, ts, registered, stand, ?_, fun e mem address same => ?_⟩
  · have tokens := rows.map (·.2)
    rwa [List.map_map, show (·.2) ∘ (fun t : Token => (t.address, t)) = id from rfl,
      List.map_id] at tokens
  · obtain ⟨t, among, own⟩ := Table.exists_of_forall₂ stand e mem
    have keys : (r.rows.map (·.1)).Nodup := by
      rw [(rows.map _).nodup_iff, List.map_map]
      exact (addresses_of_standsFor stand).symm ▸ nodup
    have row : (Text.lowerCase e.address, t) ∈ r.rows :=
      rows.mem_iff.2 (List.mem_map.2 ⟨t, among, by rw [own.address]⟩)
    rw [TokenRegistry.get?, (described e mem).lowerCase_eq same]
    exact ⟨t, Table.find?_of_nodup keys row, own⟩

end Networks

end TokenFaucet
