import TokenFaucet.Proofs.Ledger.Readable

set_option autoImplicit false

namespace TokenFaucet

namespace Table

variable {α : Type} {k : String} {a : α} {rows : List (String × α)}

theorem filter_put_others :
    (put byText k a rows).filter (·.1 != k) = rows.filter (·.1 != k) := by
  have own : ((k, a).1 != k) = false := by simp
  induction rows with
  | nil => rw [put, List.filter_cons, own, if_neg (by decide)]
  | cons first rest ih =>
      obtain ⟨k', a'⟩ := first
      rw [put]
      split
      · rw [List.filter_cons, own, if_neg (by decide)]
      · split
        · rw [List.filter_cons, List.filter_cons, ih]
        · next notLess notMore =>
            obtain rfl : k = k' := byText_total k k' (by simpa using notLess) (by simpa using notMore)
            have replaced : ((k, a').1 != k) = false := by simp
            rw [List.filter_cons, own, if_neg (by decide), List.filter_cons, replaced,
              if_neg (by decide)]

/-- Where rows are in order, a key has one row. -/
theorem filter_own_of_mem (ordered : rows.Pairwise fun x y => x.1 < y.1) (mem : (k, a) ∈ rows) :
    rows.filter (·.1 == k) = [(k, a)] := by
  induction rows with
  | nil => cases mem
  | cons first rest ih =>
      obtain ⟨least, others⟩ := List.pairwise_cons.1 ordered
      rcases List.mem_cons.1 mem with rfl | later
      · have none : rest.filter (·.1 == k) = [] := by
          rw [List.filter_eq_nil_iff]
          intro row among same
          have less := least row among
          rw [eq_of_beq same] at less
          exact String.lt_irrefl _ less
        rw [List.filter_cons, if_pos (beq_self_eq_true k), none]
      · have other : ¬ (first.1 == k) = true := by
          intro same
          have less := least _ later
          rw [eq_of_beq same] at less
          exact String.lt_irrefl _ less
        rw [List.filter_cons, if_neg other, ih others later]

end Table

namespace Ledger

open Number (Binary64)
open Store (added rowOf)

namespace Store

/-- There is a row of a key. -/
def Present (s : Store) (k : Key) : Prop :=
  ∃ r : Record, r.key = k ∧ rowOf r ∈ s.rows

/-- One store is another but for one row: it is the one row of its key, the rows of the other keys are
the same, in the same order, and so is what is found under each of them. -/
structure TouchesOnly (row : Record) (s s' : Store) : Prop where
  own : s'.rows.filter (·.1 == row.key.text) = [rowOf row]
  others : s'.rows.filter (·.1 != row.key.text) = s.rows.filter (·.1 != row.key.text)
  elsewhere : ∀ k, k ≠ row.key → s'.text? k = s.text? k

/-- The ledgers that operations lead to, with any amounts. -/
inductive Arises : Store → Prop where
  | empty : Arises empty
  | step {s s' : Store} {q : Query} {a : q.Answer} (before : Arises s)
      (dated : ∀ r, q = .create r → r.Dated) (ticks : Ticks q s a s') : Arises s'

variable {P : Record → Prop} {s s' : Store} {k : Key} {r : Record}

theorem Arises.holds (arises : Arises s) : s.Holds Record.Dated := by
  induction arises with
  | empty => exact holds_empty _
  | step _ dated ticks ih =>
      obtain ⟨-, rfl⟩ | ⟨row, -, own, rfl, -⟩ := ih.ticks dated ticks
      · exact ih
      · exact ih.write own

theorem present_of_text? (found : s.text? k = some r.text) (key : r.key = k) : s.Present k := by
  refine ⟨r, key, ?_⟩
  rw [rowOf, key]
  exact Table.mem_of_find? found

theorem Holds.present_iff (holds : s.Holds P) : s.Present k ↔ s.text? k ≠ none := by
  constructor
  · rintro ⟨r, rfl, mem⟩
    exact Table.find?_of_mem mem
  · intro found
    obtain absent | ⟨r, -, key, found⟩ := holds.text?_cases k
    · exact absurd absent found
    · exact present_of_text? found key

theorem Holds.touchesOnly_write (holds : s.Holds P) (row : Record) :
    TouchesOnly row s (s.write row.key row) where
  own := by
    refine Table.filter_own_of_mem (Table.put_ordered holds.ordered) ?_
    exact Table.mem_of_find? (text?_write_self s row.key row)
  others := Table.filter_put_others
  elsewhere := fun k other => by rw [text?_write, if_neg other]

/-- What a creation does. -/
theorem Holds.create_cases (holds : s.Holds P) (row : Record) :
    (s.Present row.key ∧ s.create row = (.error .duplicate, s)) ∨
      (¬ s.Present row.key ∧ s.create row = (.ok (), s.write row.key row)) := by
  rw [holds.present_iff]
  cases found : s.text? row.key with
  | none => exact .inr ⟨fun some => some rfl, create_of_none found⟩
  | some text => exact .inl ⟨Option.some_ne_none text, create_of_some found⟩

/-- What an addition does. -/
theorem Holds.increment_cases (holds : s.Holds P) (dated : ∀ r, P r → r.Dated) (k : Key)
    (delta : Binary64) (now : Timestamp) :
    (¬ s.Present k ∧ s.increment k delta now = (.error .notFound, s)) ∨
      (s.Present k ∧ s.increment k delta now = (.error noAmount, s)) ∨
      ∃ r, P r ∧ r.key = k ∧ rowOf r ∈ s.rows ∧ s.find k = .ok (some r.reread) ∧
        s.increment k delta now = (.ok (added r delta now), s.write k (added r delta now)) := by
  obtain absent | ⟨r, own, key, found⟩ := holds.text?_cases k
  · refine .inl ⟨?_, increment_of_none absent delta now⟩
    rw [holds.present_iff]
    exact not_not.2 absent
  · have present := present_of_text? found key
    cases finite : r.amount.isFinite with
    | false => exact .inr (.inl ⟨present, increment_of_not_finite found finite delta now⟩)
    | true =>
        have writable := (dated r own).writable finite
        have mem : rowOf r ∈ s.rows := by
          rw [rowOf, key]
          exact Table.mem_of_find? found
        exact .inr (.inr ⟨r, own, key, mem, find_of_some writable found,
          increment_of_some writable found delta now⟩)

/-- Operations either write one row or leave every row alone. -/
structure Atomic (s : Store) : Prop where
  duplicate_iff : ∀ row, (s.create row).1 = .error .duplicate ↔ s.Present row.key
  notFound_iff : ∀ k delta now, (s.increment k delta now).1 = .error .notFound ↔ ¬ s.Present k
  create_failed : ∀ row e, (s.create row).1 = .error e → (s.create row).2 = s
  increment_failed : ∀ k delta now e,
    (s.increment k delta now).1 = .error e → (s.increment k delta now).2 = s
  created : ∀ row, (s.create row).1 = .ok () → TouchesOnly row s (s.create row).2
  /-- An addition keeps the parts of its row's key and the moment of its creation. -/
  incremented : ∀ k delta now row, (s.increment k delta now).1 = .ok row →
    ∃ old, s.find k = .ok (some old) ∧ old.key = k ∧
      row = { old with amount := old.amount.add delta, updatedAt := now } ∧
      TouchesOnly row s (s.increment k delta now).2

theorem Arises.atomic (arises : Arises s) : s.Atomic := by
  have holds := arises.holds
  constructor
  · intro row
    obtain ⟨present, created⟩ | ⟨absent, created⟩ := holds.create_cases row
    · rw [created]
      exact ⟨fun _ => present, fun _ => rfl⟩
    · rw [created]
      exact ⟨nofun, fun present => absurd present absent⟩
  · intro k delta now
    obtain ⟨absent, added⟩ | ⟨present, added⟩ | ⟨r, -, key, mem, -, added⟩ :=
      holds.increment_cases (fun _ dated => dated) k delta now
    · rw [added]
      exact ⟨fun _ => absent, fun _ => rfl⟩
    · rw [added]
      exact ⟨nofun, fun absent => absurd present absent⟩
    · rw [added]
      exact ⟨nofun, fun absent => absurd ⟨r, key, mem⟩ absent⟩
  · intro row e failed
    obtain ⟨-, created⟩ | ⟨-, created⟩ := holds.create_cases row
    · rw [created]
    · rw [created] at failed
      cases failed
  · intro k delta now e failed
    obtain ⟨-, added⟩ | ⟨-, added⟩ | ⟨r, -, -, -, -, added⟩ :=
      holds.increment_cases (fun _ dated => dated) k delta now
    · rw [added]
    · rw [added]
    · rw [added] at failed
      cases failed
  · intro row done
    obtain ⟨-, created⟩ | ⟨-, created⟩ := holds.create_cases row
    · rw [created] at done
      cases done
    · rw [created]
      exact holds.touchesOnly_write row
  · intro k delta now row done
    obtain ⟨-, added⟩ | ⟨-, added⟩ | ⟨r, -, rfl, -, found, added⟩ :=
      holds.increment_cases (fun _ dated => dated) k delta now
    · rw [added] at done
      cases done
    · rw [added] at done
      cases done
    · rw [added] at done ⊢
      cases done
      exact ⟨r.reread, found, rfl, rfl, holds.touchesOnly_write _⟩

end Store

end Ledger

end TokenFaucet
