import TokenFaucet.Proofs.Ledger.Payments
import TokenFaucet.Proofs.Ledger.Posting

set_option autoImplicit false

namespace TokenFaucet.Ledger

open Dialogue (Turns)
open Store (rowOf)

/-- A row has every part that a filter sets. -/
structure Filter.Fits (f : Filter) (r : Record) : Prop where
  userId : ∀ user, f.userId = some user → r.userId = user
  chainId : ∀ chain, f.chainId = some chain → r.chainId = chain
  kind : ∀ kind, f.kind = some kind → r.kind = kind
  token : ∀ token, f.token = some token → r.token = token

namespace Filter

variable {f : Filter} {r : Record} {k : Key}

theorem agrees_iff {α : Type} [DecidableEq α] {wanted : Option α} {value : α} :
    agrees wanted value = true ↔ ∀ a, wanted = some a → value = a := by
  cases wanted with
  | none => simp [agrees]
  | some a =>
      rw [agrees, beq_iff_eq, eq_comm]
      simp only [Option.some.injEq, forall_eq']

theorem accepts_iff : f.accepts r = true ↔ f.Fits r := by
  simp only [accepts, Bool.and_eq_true, agrees_iff]
  constructor
  · rintro ⟨⟨⟨user, chain⟩, kind⟩, token⟩
    exact ⟨user, chain, kind, token⟩
  · rintro ⟨user, chain, kind, token⟩
    exact ⟨⟨⟨user, chain⟩, kind⟩, token⟩

theorem eq_ofKey_of_key? (whole : f.key? = some k) : f = .ofKey k := by
  obtain ⟨user, chain, kind, token⟩ := f
  cases user <;> cases chain <;> cases kind <;> cases token <;> cases whole
  rfl

end Filter

namespace Store

variable {s : Store} {f : Filter}

theorem readFirst_records {records : List Record} (writable : ∀ r ∈ records, r.Writable)
    (f : Filter) :
    readFirst f (records.map rowOf) = .ok ((records.map Record.reread).filter f.accepts).head? := by
  induction records with
  | nil => rfl
  | cons r rest ih =>
      have later := ih fun r mem => writable r (List.mem_cons_of_mem _ mem)
      have read := Record.parse_text (writable r (List.mem_cons_self ..))
      rw [List.map_cons, List.map_cons, rowOf, readFirst, read, List.filter_cons]
      change (if f.accepts r.reread then pure (some r.reread) else readFirst f _) = _
      split
      · rfl
      · exact later

/-- A lookup finds the first of what is listed. -/
theorem Sound.get_eq_head? (sound : s.Sound) {rows : List Record} (listed : s.list f = .ok rows) :
    s.get f = .ok rows.head? := by
  unfold Store.get
  split
  · next k whole =>
      rw [Filter.eq_ofKey_of_key? whole] at listed
      obtain absent | ⟨r, writable, -, found⟩ := sound.text?_cases k
      · rw [sound.list_of_none absent] at listed
        cases listed
        exact find_of_none absent
      · rw [sound.list_of_some writable found] at listed
        cases listed
        exact find_of_some writable found
  · obtain ⟨records, writable, same⟩ := exists_records sound.rows
    rw [list, same, readAll_records writable] at listed
    cases listed
    rw [same, readFirst_records writable]

/-- A key has one row at most. -/
theorem Sound.length_list_ofKey (sound : s.Sound) {k : Key} {rows : List Record}
    (listed : s.list (.ofKey k) = .ok rows) : rows.length ≤ 1 := by
  obtain absent | ⟨r, writable, -, found⟩ := sound.text?_cases k
  · rw [sound.list_of_none absent] at listed
    cases listed
    exact Nat.zero_le 1
  · rw [sound.list_of_some writable found] at listed
    cases listed
    exact Nat.le_refl 1

/-- The rows of a store, read one by one. -/
def Keeps (s : Store) (all : List Record) : Prop :=
  s.rows.map (fun row => (row.1, Record.parse row.2)) = all.map fun r => (r.key.text, .ok r)

theorem Keeps.exists_key {all : List Record} (keeps : s.Keeps all) {k : Key}
    (present : s.text? k ≠ none) : ∃ r ∈ all, r.key = k := by
  obtain ⟨text, found⟩ := Option.ne_none_iff_exists'.1 present
  have mem : (k.text, Record.parse text) ∈ s.rows.map fun row => (row.1, Record.parse row.2) :=
    List.mem_map.2 ⟨_, Table.mem_of_find? found, rfl⟩
  rw [keeps] at mem
  obtain ⟨r, mem, same⟩ := List.mem_map.1 mem
  exact ⟨r, mem, Key.text_injective (Prod.mk.inj same).1⟩

theorem Sound.exists_keeps (sound : s.Sound) : ∃ all, s.Keeps all ∧
    (all.Pairwise fun r r' => r.key.text < r'.key.text) ∧
    ∀ f, s.list f = .ok (all.filter f.accepts) := by
  obtain ⟨records, writable, same⟩ := exists_records sound.rows
  refine ⟨records.map Record.reread, ?_, ?_, fun f => ?_⟩
  · rw [Keeps, same, List.map_map, List.map_map]
    refine List.map_congr_left fun r mem => ?_
    have read := Record.parse_text (writable r mem)
    have key : r.reread.key = r.key := rfl
    simp only [Function.comp_apply, rowOf, read, key]
  · have ordered := sound.ordered
    rw [same, List.pairwise_map] at ordered
    exact List.pairwise_map.2 ordered
  · rw [list, same, readAll_records writable]

end Store

/-- Operations that write rows, in any order of their turns, of which every one that has ended well
wrote a finite amount: each row is kept under the text of its own key. For every filter, what is
listed are the kept rows that have all the parts it sets, in ascending order of the texts of their
keys; what is looked up is the first of these, and nothing if there are none; and a filter that sets
every part has one row at most. -/
theorem get_eq_head_of_list {ι : Type} [DecidableEq ι] {writes : ι → Write}
    {trace : List (ι × Turn)} {programs : ι → Session (Except Error Record)} {s : Store}
    (dated : ∀ i, (writes i).Dated)
    (run : Turns Ticks (fun i => (writes i).program) Store.empty trace programs s)
    (finite : ∀ i row, programs i = .done (.ok row) → row.amount.isFinite = true) :
    ∃ all, s.Keeps all ∧ ∀ f, ∃ rows, s.list f = .ok rows ∧ s.get f = .ok rows.head? ∧
      (∀ r, r ∈ rows ↔ r ∈ all ∧ f.Fits r) ∧
      (rows.Pairwise fun r r' => r.key.text < r'.key.text) ∧
      ∀ user chain kind token, f = ⟨some user, some chain, some kind, some token⟩ →
        rows.length ≤ 1 := by
  have recorded := recorded_of_turns dated run
  have sound : s.Sound := by
    apply recorded.sound
    intro taken mem row wrote
    obtain ⟨i, ended⟩ := (recorded.results row).2 ⟨taken, mem, wrote⟩
    exact finite i row ended
  obtain ⟨all, keeps, ordered, lists⟩ := sound.exists_keeps
  refine ⟨all, keeps, fun f => ?_⟩
  refine ⟨_, lists f, sound.get_eq_head? (lists f), ?_, ordered.filter _, ?_⟩
  · intro r
    rw [List.mem_filter, Filter.accepts_iff]
  · rintro user chain kind token rfl
    exact sound.length_list_ofKey (k := ⟨user, chain, kind, token⟩) (lists _)

section Example

def oneAndHalf : Number.Binary64 := ⟨0x3ff8000000000000⟩

def aliceKey : Key := ⟨"alice", "sepolia", .evm, ""⟩

def bobKey : Key := ⟨"bob", "sepolia", .evm, ""⟩

def twoPayments (bob : Bool) : Write :=
  .credit ⟨if bob then bobKey else aliceKey, oneAndHalf⟩

theorem turns_twoPayments : ∃ trace programs s,
    Turns Ticks (fun bob => (twoPayments bob).program) Store.empty trace programs s ∧
      (∀ bob row, programs bob = .done (.ok row) → row.amount.isFinite = true) ∧
      s.text? aliceKey ≠ none ∧ s.text? bobKey ≠ none := by
  let now : Timestamp := ⟨2024, 1, 2, 3, 4, 5, 0⟩
  have proper : now.Proper := ⟨by decide, by decide⟩
  have other : bobKey ≠ aliceKey := by decide
  have idle : Turns Ticks (fun bob => (twoPayments bob).program) Store.empty []
    (fun bob => (twoPayments bob).program) Store.empty := .start
  have first := turns_create (i := false) (c := ⟨aliceKey, oneAndHalf⟩) idle rfl proper rfl
  have second := turns_create (i := true) (c := ⟨bobKey, oneAndHalf⟩) first rfl proper (by
    rw [Store.text?_write, if_neg other]
    rfl)
  refine ⟨_, _, _, second, ?_, ?_, ?_⟩
  · intro bob row ended
    cases bob <;> cases ended <;> decide
  · rw [Store.text?_write, if_neg other.symm, Store.text?_write_self]
    exact Option.some_ne_none _
  · rw [Store.text?_write_self]
    exact Option.some_ne_none _

/-- After two payments, a whole key has one row, and the filter on a user finds it, too. -/
theorem get_eq_head_of_list_two : ∃ trace programs s all row,
    Turns Ticks (fun bob => (twoPayments bob).program) Store.empty trace programs s ∧
      (∀ bob row, programs bob = .done (.ok row) → row.amount.isFinite = true) ∧
      s.Keeps all ∧ row ∈ all ∧ s.list (.ofKey bobKey) = .ok [row] ∧
      s.get (.ofKey bobKey) = .ok (some row) ∧
      ∃ rows, s.list (Filter.any.byUser "bob") = .ok rows ∧ row ∈ rows ∧
        s.get (Filter.any.byUser "bob") = .ok rows.head? := by
  obtain ⟨trace, programs, s, run, finite, -, present⟩ := turns_twoPayments
  have dated : ∀ bob, (twoPayments bob).Dated := fun _ => trivial
  obtain ⟨all, keeps, each⟩ := get_eq_head_of_list dated run finite
  obtain ⟨row, mem, key⟩ := keeps.exists_key present
  obtain ⟨rows, listed, got, members, -, one⟩ := each (.ofKey bobKey)
  have own : row ∈ rows := (members row).2 ⟨mem, Filter.accepts_iff.1 ((Filter.accepts_ofKey ..).2 key)⟩
  have single : rows = [row] := by
    have length : rows.length = 1 :=
      Nat.le_antisymm (one _ _ _ _ rfl) (List.length_pos_of_mem own)
    obtain ⟨only, rfl⟩ := List.length_eq_one_iff.1 length
    rw [List.mem_singleton.1 own]
  subst single
  obtain ⟨rows, listed', got', members', -⟩ := each (Filter.any.byUser "bob")
  have fits : (Filter.any.byUser "bob").Fits row :=
    ⟨fun user set => (congrArg Key.userId key).trans (Option.some.inj set), nofun, nofun, nofun⟩
  exact ⟨trace, programs, s, all, row, run, finite, keeps, mem, listed, got, rows, listed',
    (members' row).2 ⟨mem, fits⟩, got'⟩

end Example

end TokenFaucet.Ledger
