import Mathlib.Data.Prod.Lex
import Mathlib.Data.String.Basic
import Mathlib.Tactic.FinCases
import TokenFaucet.Faucet.Inventory
import TokenFaucet.Proofs.Faucet.World
import TokenFaucet.Proofs.Ledger.Lookup

set_option autoImplicit false

namespace TokenFaucet.Faucet

open Dialogue (Turns)
open Ledger (Record Store Filter Write Ticks)

/-- The place of a row among the rows of its user: by family, then by chain, then by token. -/
def place (r : Record) : Nat ×ₗ String ×ₗ String :=
  toLex (r.kind.rank, toLex (r.chainId, r.token))

section Order

variable {a b : Record} {rows rows' : List Record} {userId : String}

theorem rowLe_iff : rowLe a b = true ↔ place a ≤ place b := by
  have kinds : a.kind = b.kind ↔ a.kind.rank = b.kind.rank :=
    ⟨congrArg ChainKind.rank, ChainKind.rank_injective⟩
  rw [place, place, Prod.Lex.toLex_le_toLex, Prod.Lex.toLex_le_toLex, ← kinds]
  simp only [rowLe, Bool.or_eq_true, Bool.and_eq_true, decide_eq_true_eq, beq_iff_eq]

theorem pairwise_mergeSort (rows : List Record) :
    (rows.mergeSort rowLe).Pairwise fun a b => place a ≤ place b := by
  have sorted : (rows.mergeSort rowLe).Pairwise fun a b => rowLe a b = true := by
    apply List.pairwise_mergeSort
    · intro a b c first second
      exact rowLe_iff.2 ((rowLe_iff.1 first).trans (rowLe_iff.1 second))
    · intro a b
      rw [Bool.or_eq_true, rowLe_iff, rowLe_iff]
      exact le_total _ _
  exact sorted.imp rowLe_iff.1

/-- A user has no two keys of one place. -/
theorem key_eq_of_place (user : a.userId = b.userId) (same : place a = place b) : a.key = b.key := by
  obtain ⟨kinds, others⟩ := Prod.mk.inj (toLex.injective same)
  obtain ⟨chains, tokens⟩ := Prod.mk.inj (toLex.injective others)
  rw [Record.key, Record.key, user, ChainKind.rank_injective kinds, chains, tokens]

/-- The sorted rows of a user, no two of one key, stand at ascending places. -/
theorem ascending_mergeSort (own : ∀ r ∈ rows, r.userId = userId)
    (keys : rows.Pairwise fun a b => a.key ≠ b.key) :
    (rows.mergeSort rowLe).Pairwise fun a b => place a < place b := by
  have keys' : (rows.mergeSort rowLe).Pairwise fun a b => a.key ≠ b.key :=
    ((List.mergeSort_perm rows rowLe).pairwise_iff Ne.symm).2 keys
  refine ((pairwise_mergeSort rows).and keys').imp_of_mem ?_
  rintro a b mem mem' ⟨le, other⟩
  refine lt_of_le_of_ne le fun same => other (key_eq_of_place ?_ same)
  rw [own a (List.mem_mergeSort.1 mem), own b (List.mem_mergeSort.1 mem')]

/-- Rows at ascending places are determined by which rows they are. -/
theorem eq_of_ascending (ascending : rows.Pairwise fun a b => place a < place b)
    (ascending' : rows'.Pairwise fun a b => place a < place b) (same : ∀ r, r ∈ rows ↔ r ∈ rows') :
    rows = rows' := by
  have nodup {rows : List Record} (ascending : rows.Pairwise fun a b => place a < place b) :
      rows.Nodup := ascending.imp fun less same => absurd (same ▸ less) (lt_irrefl _)
  refine List.Perm.eq_of_pairwise ?_ ascending ascending'
    ((List.perm_ext_iff_of_nodup (nodup ascending) (nodup ascending')).2 same)
  intro a b _ _ less more
  exact absurd (less.trans more) (lt_irrefl _)

end Order

section Run

variable {userId : String} {w : World}

/-- One question to the ledger, and what it answers is sorted. -/
theorem run_balances_eq (userId : String) (w : World) :
    (balances userId).run.run World.answer w =
      (((w.desk.store.list (Filter.any.byUser userId)).mapError .ledger).map (·.mergeSort rowLe),
        { w with desk := ⟨w.desk.store, fun n => w.desk.clock (n + 1)⟩ }) := by
  have listed : (onLedger (.query (Ledger.Query.list (Filter.any.byUser userId)))).run.run
      World.answer w = ((w.desk.store.list (Filter.any.byUser userId)).mapError .ledger,
        { w with desk := ⟨w.desk.store, fun n => w.desk.clock (n + 1)⟩ }) := rfl
  unfold balances
  rw [Dialogue.run_bind, Dialogue.run_andThen, listed]
  cases w.desk.store.list (Filter.any.byUser userId) <;> rfl

/-- From a sound ledger a user is told exactly the own rows, at ascending places. -/
theorem balances_of_sound (sound : w.desk.store.Sound) (userId : String) :
    ∃ all rows, w.desk.store.Keeps all ∧
      ((balances userId).run.run World.answer w).1 = .ok rows ∧
      (∀ r, r ∈ rows ↔ r ∈ all ∧ r.userId = userId) ∧
      rows.Pairwise fun a b => place a < place b := by
  obtain ⟨all, keeps, ordered, lists⟩ := sound.exists_keeps
  have members (r : Record) : r ∈ (all.filter (Filter.any.byUser userId).accepts).mergeSort rowLe ↔
      r ∈ all ∧ r.userId = userId := by
    rw [List.mem_mergeSort, List.mem_filter, Filter.accepts_iff]
    refine and_congr_right fun _ => ⟨fun fits => fits.userId userId rfl, fun own => ?_⟩
    exact ⟨fun user set => own.trans (Option.some.inj set), nofun, nofun, nofun⟩
  refine ⟨all, _, keeps, by rw [run_balances_eq, lists]; rfl, members, ?_⟩
  have own : ∀ r ∈ all.filter (Filter.any.byUser userId).accepts, r.userId = userId :=
    fun r mem => ((members r).1 (List.mem_mergeSort.2 mem)).2
  refine ascending_mergeSort own ((ordered.filter _).imp fun less same => ?_)
  rw [same] at less
  exact absurd less (lt_irrefl _)

/-- One row with an amount that is not finite keeps every user from being told. -/
theorem balances_of_not_finite {k : Ledger.Key} {r : Record}
    (found : w.desk.store.text? k = some r.text) (spoiled : r.amount.isFinite = false)
    (userId : String) :
    ∃ why, ((balances userId).run.run World.answer w).1 = .error (.ledger why) := by
  obtain ⟨why, refused⟩ := Store.list_of_not_finite found spoiled (Filter.any.byUser userId)
  exact ⟨why, by rw [run_balances_eq, refused]; rfl⟩

end Run

/-- Operations that write rows, in any order of their turns, and a user who asks for balances. If every
operation that has ended well wrote a finite amount, the user is told, of the rows that are kept, exactly
those of this user, as they are kept, at ascending places; there is only one such list. If one wrote
another amount, the user is told nothing but an error. The ledger stays as it is and no network is
asked. -/
theorem balances_complete {ι : Type} [DecidableEq ι] {writes : ι → Write}
    {trace : List (ι × Ledger.Turn)} {programs : ι → Ledger.Session (Except Ledger.Error Record)}
    {s : Store} (dated : ∀ i, (writes i).Dated)
    (run : Turns Ticks (fun i => (writes i).program) Store.empty trace programs s)
    (userId : String) {w : World} (desk : w.desk.store = s) :
    ∃ told w', (balances userId).run.run World.answer w = (told, w') ∧
      w'.desk.store = s ∧ w'.exchanged = w.exchanged ∧
      ((∀ i row, programs i = .done (.ok row) → row.amount.isFinite = true) →
        ∃ all rows, s.Keeps all ∧ told = .ok rows ∧
          (∀ r, r ∈ rows ↔ r ∈ all ∧ r.userId = userId) ∧
          (rows.Pairwise fun a b => place a < place b) ∧
          ∀ rows', (∀ r, r ∈ rows' ↔ r ∈ all ∧ r.userId = userId) →
            (rows'.Pairwise fun a b => place a < place b) → rows' = rows) ∧
      ((∃ i row, programs i = .done (.ok row) ∧ row.amount.isFinite = false) →
        ∃ why, told = .error (.ledger why)) := by
  subst desk
  have recorded := Ledger.recorded_of_turns dated run
  refine ⟨_, _, Prod.mk.eta.symm, by rw [run_balances_eq], by rw [run_balances_eq], fun finite => ?_, ?_⟩
  · have sound : w.desk.store.Sound := by
      apply recorded.sound
      intro taken mem row wrote
      obtain ⟨i, ended⟩ := (recorded.results row).2 ⟨taken, mem, wrote⟩
      exact finite i row ended
    obtain ⟨all, rows, keeps, told, members, ascending⟩ := balances_of_sound sound userId
    refine ⟨all, rows, keeps, told, members, ascending, fun rows' same ascending' => ?_⟩
    exact eq_of_ascending ascending' ascending fun r => (same r).trans (members r).symm
  · rintro ⟨i, row, ended, infinite⟩
    obtain ⟨taken, mem, wrote⟩ := (recorded.results row).1 ⟨i, ended⟩
    obtain ⟨k, r, found, spoiled⟩ := recorded.spoiled taken mem row wrote infinite
    exact balances_of_not_finite found spoiled userId

section Example

open Ledger (Key aliceKey bobKey credit huge huge_isFinite oneAndHalf)

def aliceDevnetKey : Key := ⟨"alice", "devnet", .solana, ""⟩

/-- Alice is paid on two chains, and Bob is paid in between. -/
def threePayments : Fin 3 → Write
  | 0 => .credit ⟨aliceDevnetKey, oneAndHalf⟩
  | 1 => .credit ⟨bobKey, oneAndHalf⟩
  | 2 => .credit ⟨aliceKey, oneAndHalf⟩

theorem turns_threePayments : ∃ trace programs s,
    Turns Ticks (fun i => (threePayments i).program) Store.empty trace programs s ∧
      (∀ i row, programs i = .done (.ok row) → row.amount.isFinite = true) ∧
      s.text? aliceDevnetKey ≠ none ∧ s.text? bobKey ≠ none ∧ s.text? aliceKey ≠ none := by
  let now : Timestamp := ⟨2024, 1, 2, 3, 4, 5, 0⟩
  have proper : now.Proper := ⟨by decide, by decide⟩
  have apart : bobKey ≠ aliceDevnetKey ∧ aliceKey ≠ aliceDevnetKey ∧ aliceKey ≠ bobKey := by decide
  have idle : Turns Ticks (fun i => (threePayments i).program) Store.empty []
    (fun i => (threePayments i).program) Store.empty := .start
  have first := Ledger.turns_create (i := 0) (c := ⟨aliceDevnetKey, oneAndHalf⟩) idle rfl proper rfl
  have second := Ledger.turns_create (i := 1) (c := ⟨bobKey, oneAndHalf⟩) first rfl proper (by
    rw [Store.text?_write, if_neg apart.1]
    rfl)
  have third := Ledger.turns_create (i := 2) (c := ⟨aliceKey, oneAndHalf⟩) second rfl proper (by
    rw [Store.text?_write, if_neg apart.2.2, Store.text?_write, if_neg apart.2.1]
    rfl)
  refine ⟨_, _, _, third, ?_, ?_, ?_, ?_⟩
  · intro i row ended
    fin_cases i <;> cases ended <;> decide
  · rw [Store.text?_write, if_neg apart.2.1.symm, Store.text?_write, if_neg apart.1.symm,
      Store.text?_write_self]
    exact Option.some_ne_none _
  · rw [Store.text?_write, if_neg apart.2.2.symm, Store.text?_write_self]
    exact Option.some_ne_none _
  · rw [Store.text?_write_self]
    exact Option.some_ne_none _

/-- Alice is told of both payments, the one on the EVM chain first although its row is kept behind the
other one, and Bob of none of them. -/
theorem balances_complete_two : ∃ trace programs s,
    (∀ i, (threePayments i).Dated) ∧
      Turns Ticks (fun i => (threePayments i).program) Store.empty trace programs s ∧
      ∀ w : World, w.desk.store = s →
        (∃ rows w', (balances "alice").run.run World.answer w = (.ok rows, w') ∧
          (rows.Pairwise fun a b => place a < place b) ∧
          ∃ evm ∈ rows, evm.key = aliceKey ∧ ∃ solana ∈ rows, solana.key = aliceDevnetKey ∧
            place evm < place solana ∧ solana.key.text < evm.key.text) ∧
        ∃ rows w', (balances "bob").run.run World.answer w = (.ok rows, w') ∧
          ∀ r ∈ rows, r.userId = "bob" := by
  obtain ⟨trace, programs, s, run, finite, devnet, bob, sepolia⟩ := turns_threePayments
  have dated : ∀ i, (threePayments i).Dated := by
    intro i
    fin_cases i <;> trivial
  refine ⟨trace, programs, s, dated, run, fun w desk => ⟨?_, ?_⟩⟩
  · obtain ⟨_, w', answered, -, -, complete, -⟩ := balances_complete dated run "alice" desk
    obtain ⟨all, rows, keeps, rfl, members, ascending, -⟩ := complete finite
    obtain ⟨evm, kept, key⟩ := keeps.exists_key sepolia
    obtain ⟨solana, kept', key'⟩ := keeps.exists_key devnet
    have mem : evm ∈ rows := (members evm).2 ⟨kept, congrArg Key.userId key⟩
    have mem' : solana ∈ rows := (members solana).2 ⟨kept', congrArg Key.userId key'⟩
    refine ⟨rows, w', answered, ascending, evm, mem, key, solana, mem', key', ?_, ?_⟩
    · have kind : evm.kind = .evm := congrArg Key.kind key
      have kind' : solana.kind = .solana := congrArg Key.kind key'
      rw [place, place, kind, kind', Prod.Lex.toLex_lt_toLex]
      exact .inl Nat.one_pos
    · rw [key, key']
      decide +kernel
  · obtain ⟨_, w', answered, -, -, complete, -⟩ := balances_complete dated run "bob" desk
    obtain ⟨all, rows, keeps, rfl, members, -, -⟩ := complete finite
    exact ⟨rows, w', answered, fun r mem => ((members r).1 mem).2⟩

/-- Two finite payments to Alice, both of which end well, keep Bob from being told that he has received
nothing. -/
theorem balances_fail_after_overflow : ∃ (now : Timestamp) (desk₁ desk₂ : Ledger.Desk)
    (row₁ row₂ : Record), now.Proper ∧ huge.isFinite = true ∧
      (credit aliceKey huge).run Ledger.Desk.answer ⟨Store.empty, fun _ => now⟩ = (.ok row₁, desk₁) ∧
      (credit aliceKey huge).run Ledger.Desk.answer desk₁ = (.ok row₂, desk₂) ∧
      ∀ w : World, w.desk = desk₂ →
        ∃ why, ((balances "bob").run.run World.answer w).1 = .error (.ledger why) := by
  let now : Timestamp := ⟨2024, 1, 2, 3, 4, 5, 0⟩
  have proper : now.Proper := ⟨by decide, by decide⟩
  have writable : (Record.ofKey aliceKey huge now).Writable := ⟨huge_isFinite, proper, proper⟩
  have first := @Ledger.run_credit_of_none ⟨Store.empty, fun _ => now⟩ aliceKey huge rfl
  have second := @Ledger.run_credit_of_some
    ⟨Store.empty.write aliceKey (Record.ofKey aliceKey huge now), fun _ => now⟩ aliceKey huge _ writable
    (Store.text?_write_self ..)
  refine ⟨now, _, _, _, _, proper, huge_isFinite, first, second, ?_⟩
  intro w desk
  apply balances_of_not_finite (k := aliceKey)
  · rw [desk]
    exact Store.text?_write_self ..
  · exact Ledger.isFinite_added_huge aliceKey now

end Example

end TokenFaucet.Faucet
