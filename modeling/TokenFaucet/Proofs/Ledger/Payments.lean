import Mathlib.Data.List.Nodup
import TokenFaucet.Proofs.Ledger.Amounts
import TokenFaucet.Proofs.Ledger.Readable

set_option autoImplicit false

namespace TokenFaucet

namespace Ledger

open Number (Binary64)
open Store (added rowOf)

/-- What was read back of payments is finite and positive. -/
structure Positive (x : Binary64) : Prop where
  finite : x.isFinite = true
  sign : x.isNegative = false
  nonzero : x.isZero = false

theorem IsTotal.positive_reread {x : Binary64} (total : IsTotal x) :
    Positive (Json.NumberText.reread x) := by
  obtain ⟨finite, sign, near⟩ := total.reread
  refine ⟨finite, sign, Binary64.isZero_of_pos ?_⟩
  have pos := lt_of_lt_of_le (Binary64.two_zpow_pos (-848)) total.least
  exact lt_of_lt_of_le (mul_pos pos (Number.kept_pow_pos 4)) near.1

/-- A row with an amount that payments add up to. -/
structure Record.Total (r : Record) : Prop where
  writable : r.Writable
  amount : IsTotal r.amount

namespace Store

variable {s : Store}

theorem Holds.sound (totals : s.Holds Record.Total) : s.Sound where
  ordered := totals.ordered
  rows := by
    intro row mem
    obtain ⟨r, total, same⟩ := totals.rows row mem
    exact ⟨r, total.writable, same⟩

/-- The rows of a list of texts, one by one. -/
theorem exists_records {P : Record → Prop} {rows : List (String × String)}
    (each : ∀ row ∈ rows, ∃ r, P r ∧ row = rowOf r) :
    ∃ records : List Record, (∀ r ∈ records, P r) ∧ rows = records.map rowOf := by
  induction rows with
  | nil => exact ⟨[], List.forall_mem_nil _, rfl⟩
  | cons row rest ih =>
      obtain ⟨r, holds, rfl⟩ := each row (List.mem_cons_self ..)
      obtain ⟨records, others, rfl⟩ := ih fun row mem => each row (List.mem_cons_of_mem _ mem)
      exact ⟨r :: records, List.forall_mem_cons.2 ⟨holds, others⟩, rfl⟩

theorem readAll_records {records : List Record} (writable : ∀ r ∈ records, r.Writable) (f : Filter) :
    readAll f (records.map rowOf) = .ok ((records.map Record.reread).filter f.accepts) := by
  induction records with
  | nil => rfl
  | cons r rest ih =>
      have others := ih fun r mem => writable r (List.mem_cons_of_mem _ mem)
      have read := Record.parse_text (writable r (List.mem_cons_self ..))
      rw [List.map_cons, List.map_cons, rowOf, readAll_cons _ _ read, others, List.filter_cons]
      rfl

/-- All rows that are read: one for each key that has a text, with a finite and positive amount. -/
theorem Holds.list_any (totals : s.Holds Record.Total) :
    ∃ rows, s.list .any = .ok rows ∧ (rows.map Record.key).Nodup ∧
      (∀ k, k ∈ rows.map Record.key ↔ s.text? k ≠ none) ∧ ∀ row ∈ rows, Positive row.amount := by
  obtain ⟨records, each, same⟩ := exists_records totals.rows
  have ordered := totals.ordered
  have keys : (records.map Record.reread).map Record.key = records.map Record.key := by
    rw [List.map_map]
    rfl
  refine ⟨records.map Record.reread, ?_, ?_, ?_, ?_⟩
  · rw [list, same, readAll_records fun r mem => (each r mem).writable]
    exact congrArg Except.ok (List.filter_eq_self.2 fun _ _ => rfl)
  · rw [same, List.pairwise_map] at ordered
    rw [keys]
    refine List.pairwise_map.2 (ordered.imp fun {r r'} less key => ?_)
    change r.key.text < r'.key.text at less
    rw [key] at less
    exact String.lt_irrefl _ less
  · intro k
    rw [keys, List.mem_map]
    constructor
    · rintro ⟨r, mem, rfl⟩
      refine Table.find?_of_mem (a := r.text) ?_
      rw [same]
      exact List.mem_map.2 ⟨r, mem, rfl⟩
    · intro present
      obtain absent | ⟨r, -, rfl, found⟩ := totals.text?_cases k
      · exact absurd absent present
      · have mem := Table.mem_of_find? found
        rw [same] at mem
        obtain ⟨r', mem', row⟩ := List.mem_map.1 mem
        exact ⟨r', mem', Key.text_injective (Prod.mk.inj row).1⟩
  · intro row mem
    obtain ⟨r, mem', rfl⟩ := List.mem_map.1 mem
    exact (each r mem').amount.positive_reread

end Store

/-- What a question adds to the ledger is a payment. -/
def Pays : Query → Prop
  | .create r => IsPayment r.amount
  | .increment _ delta => IsPayment delta
  | .now => True
  | .get _ => True
  | .list _ => True

/-- Payments lead to amounts that payments add up to. -/
theorem Store.Holds.isTotal_of_written {s s' : Store} {q : Query} {a : q.Answer} {row : Record}
    (totals : s.Holds Record.Total) (pays : Pays q) (ticks : Ticks q s a s') (wrote : written? ⟨q, a⟩ = some row) :
    IsTotal row.amount := by
  obtain ⟨now, proper, answered⟩ := ticks
  cases q with
  | now => cases wrote
  | get f => cases wrote
  | list f => cases wrote
  | create r =>
      cases a with
      | error e => cases wrote
      | ok done =>
          cases wrote
          exact pays.isTotal
  | increment k delta =>
      change s.increment k delta now = (a, s') at answered
      obtain absent | ⟨r, ⟨writable, total⟩, -, found⟩ := totals.text?_cases k
      · rw [Store.increment_of_none absent] at answered
        cases answered
        cases wrote
      · rw [Store.increment_of_some writable found] at answered
        cases answered
        cases wrote
        exact (total.add pays).1

section Pending

variable {c : Call} {s s' : Store} {program : Session (Except Error Record)} {q : Query}
  {next : q.Answer → Session (Except Error Record)} {a : q.Answer}

/-- A credit of a payment asks for no other amount. -/
theorem Pending.pays (pending : Pending c s program) (payment : IsPayment c.delta)
    (asks : program = .ask q next) : Pays q := by
  cases pending with
  | start =>
      cases asks
      trivial
  | present =>
      cases asks
      exact payment
  | creating =>
      cases asks
      exact payment
  | absent =>
      cases asks
      trivial

/-- The error that a turn was answered with, if it was one. -/
def fault? : Turn → Option Error
  | ⟨.now, _⟩ => none
  | ⟨.get _, .ok _⟩ => none
  | ⟨.get _, .error e⟩ => some e
  | ⟨.list _, .ok _⟩ => none
  | ⟨.list _, .error e⟩ => some e
  | ⟨.create _, .ok _⟩ => none
  | ⟨.create _, .error e⟩ => some e
  | ⟨.increment _ _, .ok _⟩ => none
  | ⟨.increment _ _, .error e⟩ => some e

/-- The turns of a pending credit: a key that has no row is found to have none, and the row is not created
only if there is one in the meantime. -/
inductive Answered (c : Call) (s : Store) : Turn → Session (Except Error Record) → Prop where
  | absent {program : Session (Except Error Record)} (nothing : s.text? c.key = none) :
      Answered c s ⟨.get (.ofKey c.key), .ok none⟩ program
  | present {row : Record} :
      Answered c s ⟨.get (.ofKey c.key), .ok (some row)⟩ (.ask (.increment c.key c.delta) .done)
  | told {now : Timestamp} {program : Session (Except Error Record)} : Answered c s ⟨.now, now⟩ program
  | wrote {turn : Turn} {row : Record} {program : Session (Except Error Record)}
      (wrote : written? turn = some row) (well : fault? turn = none) : Answered c s turn program
  | refused {r : Record} (own : r.key = c.key) (taken : s.text? c.key ≠ none) :
      Answered c s ⟨.create r, .error .duplicate⟩ (.ask (.increment c.key c.delta) .done)

theorem Pending.answered (pending : Pending c s program) (sound : s.Sound)
    (asks : program = .ask q next) (ticks : Ticks q s a s') : Answered c s ⟨q, a⟩ (next a) := by
  obtain ⟨now, proper, told⟩ := ticks
  cases pending with
  | start =>
      cases asks
      have same : s.find c.key = a := (Prod.mk.inj told).1
      obtain absent | ⟨row, writable, -, found⟩ := sound.text?_cases c.key
      · rw [Store.find_of_none absent] at same
        subst same
        exact .absent absent
      · rw [Store.find_of_some writable found] at same
        subst same
        exact .present
  | @present row writable key found =>
      cases asks
      have same := (Store.increment_of_some writable found c.delta now).symm.trans told
      cases same
      exact .wrote rfl rfl
  | @creating moment next proper' first second =>
      cases asks
      cases found : s.text? c.key with
      | none =>
          have created : s.create (Record.ofKey c.key c.delta moment) = _ := Store.create_of_none found
          cases created.symm.trans told
          exact .wrote rfl rfl
      | some text =>
          have refused : s.create (Record.ofKey c.key c.delta moment) = (.error .duplicate, s) :=
            Store.create_of_some found
          cases refused.symm.trans told
          rw [second]
          exact .refused rfl (by rw [found]; nofun)
  | absent onward =>
      cases asks
      exact .told

end Pending

end Ledger

end TokenFaucet
