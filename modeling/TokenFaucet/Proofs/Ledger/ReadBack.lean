import TokenFaucet.Proofs.Json.FloatValue
import TokenFaucet.Proofs.Ledger.Posting

set_option autoImplicit false

attribute [local instance (2000)] instPowNat

namespace TokenFaucet.Ledger

open Dialogue (Turns)
open Number (Binary64 Within)

/-- A row is read as another: all but the amount is the same, and the amount is finite, has the same
sign and is near. It is the same if fifteen digits name it. -/
structure Record.ReadsAs (r found : Record) : Prop where
  key : found.key = r.key
  createdAt : found.createdAt = r.createdAt
  updatedAt : found.updatedAt = r.updatedAt
  finite : found.amount.isFinite = true
  sign : found.amount.isNegative = r.amount.isNegative
  near : 2 ^ (-900 : Int) ≤ r.amount.value → Within 4 found.amount.value r.amount.value
  exact : ∀ n k, 0 < n → n < 10 ^ 15 → k ≤ 21 →
    r.amount.magnitude = Binary64.magnitudeBits n (10 ^ k) → found = r
  zero : r.amount.isZero = true → found = r

namespace Record

variable {r : Record}

theorem reread_eq (same : Json.NumberText.reread r.amount = r.amount) : r.reread = r := by
  rw [reread, same]

theorem readsAs_reread (finite : r.amount.isFinite = true) : r.ReadsAs r.reread where
  key := rfl
  createdAt := rfl
  updatedAt := rfl
  finite := (Json.NumberText.reread_isFinite finite).1
  sign := (Json.NumberText.reread_isFinite finite).2
  near := Json.NumberText.reread_within finite
  exact := by
    intro n k some_ few places rounded
    have pos : 0 < 10 ^ k := Nat.pow_pos (by decide)
    cases zero : r.amount.isZero with
    | true => exact reread_eq (Json.NumberText.reread_of_isZero zero)
    | false =>
        have inside := Binary64.contains_of_magnitudeBits finite zero some_ pos rounded.symm
        push_cast at inside
        exact reread_eq (Json.NumberText.reread_of_fifteen finite few places inside)
  zero := fun zero => reread_eq (Json.NumberText.reread_of_isZero zero)

end Record

/-- A program that ends well by itself leaves its row in the ledger. -/
theorem Posting.run_ok {program : Session (Except Error Record)} (posting : Posting program)
    {desk desk' : Desk} {row : Record} (holds : desk.store.Holds Record.Dated)
    (proper : ∀ n, (desk.clock n).Proper)
    (ran : program.run Desk.answer desk = (.ok row, desk')) :
    row.Dated ∧ desk'.store.text? row.key = some row.text := by
  induction posting generalizing desk with
  | failed e => cases ran
  | @ask q next dated wrote onward ih =>
      have ticks : Ticks q desk.store (desk.store.answer (desk.clock 0) q).1
          (desk.store.answer (desk.clock 0) q).2 := ⟨desk.clock 0, proper 0, rfl⟩
      change (next (desk.store.answer (desk.clock 0) q).1).run Desk.answer
        ⟨(desk.store.answer (desk.clock 0) q).2, fun n => desk.clock (n + 1)⟩ = _ at ran
      have later : ∀ n, (desk.clock (n + 1)).Proper := fun n => proper (n + 1)
      obtain ⟨nothing, same⟩ | ⟨row', done, datedRow, same, -⟩ := holds.ticks dated ticks
      · rw [same] at ran
        exact @ih _ ticks.told nothing ⟨desk.store, fun n => desk.clock (n + 1)⟩ holds later ran
      · rw [wrote _ row' done, same] at ran
        cases ran
        exact ⟨datedRow, Store.text?_write_self ..⟩

/-- After any operations, in any order of their turns and with any amounts: an operation that writes a
row with a finite amount is followed by a reading of that row, whose amount is at most four roundings
away unless it is tiny, and the same if it is what a decimal of fifteen digits rounds to. -/
theorem written_row_read_back {ι : Type} [DecidableEq ι] {writes : ι → Write}
    {trace : List (ι × Turn)} {programs : ι → Session (Except Error Record)} {s : Store}
    (dated : ∀ i, (writes i).Dated)
    (run : Turns Ticks (fun i => (writes i).program) Store.empty trace programs s)
    {w : Write} (datedLast : w.Dated) {clock : Nat → Timestamp} (proper : ∀ n, (clock n).Proper)
    {row : Record} {desk : Desk} (wrote : w.program.run Desk.answer ⟨s, clock⟩ = (.ok row, desk))
    (finite : row.amount.isFinite = true) :
    ∃ found, desk.store.get (.ofKey row.key) = .ok (some found) ∧ row.ReadsAs found := by
  obtain ⟨datedRow, kept⟩ :=
    (posting_program datedLast).run_ok (recorded_of_turns dated run).holds proper wrote
  exact ⟨row.reread, Store.find_of_some (datedRow.writable finite) kept,
    Record.readsAs_reread finite⟩

section Moved

open Store (added)

/-- The numbers nearest to 0.1 and 1.3. -/
def tenth : Binary64 := ⟨0x3fb999999999999a⟩

def thirteenTenths : Binary64 := ⟨0x3ff4cccccccccccd⟩

/-- The sum is the number after the one nearest to 1.4, whose seventeen digits are read as the latter. -/
theorem sum_of_tenths : (Json.NumberText.reread tenth).add thirteenTenths = ⟨0x3ff6666666666667⟩ ∧
    Json.NumberText.reread ⟨0x3ff6666666666667⟩ = ⟨0x3ff6666666666666⟩ := by
  decide +kernel

/-- The row after both payments, as it is written. -/
def paidTwice (k : Key) (now : Timestamp) : Record :=
  added (Record.ofKey k tenth now) thirteenTenths now

theorem amount_paidTwice (k : Key) (now : Timestamp) :
    (paidTwice k now).amount = ⟨0x3ff6666666666667⟩ := by
  rw [paidTwice, amount_added_ofKey]
  exact sum_of_tenths.1

theorem run_second_payment (k : Key) {now : Timestamp} (proper : now.Proper) :
    (credit k thirteenTenths).run Desk.answer
        ⟨Store.empty.write k (Record.ofKey k tenth now), fun _ => now⟩ =
      (.ok (paidTwice k now),
        ⟨(Store.empty.write k (Record.ofKey k tenth now)).write k (paidTwice k now), fun _ => now⟩) := by
  have finite : tenth.isFinite = true := by decide
  have writable : (Record.ofKey k tenth now).Writable := ⟨finite, proper, proper⟩
  exact run_credit_of_some writable (Store.text?_write_self ..)

theorem isFinite_paidTwice (k : Key) (now : Timestamp) :
    (paidTwice k now).amount.isFinite = true := by
  rw [amount_paidTwice]
  decide

/-- What is read after both payments. -/
theorem get_paidTwice (k : Key) {now : Timestamp} (proper : now.Proper) (s : Store) :
    (s.write k (paidTwice k now)).get (.ofKey k) = .ok (some (paidTwice k now).reread) ∧
      (paidTwice k now).reread.amount = ⟨0x3ff6666666666666⟩ := by
  have writable : (paidTwice k now).Writable := ⟨isFinite_paidTwice k now, proper, proper⟩
  refine ⟨Store.find_of_some writable (Store.text?_write_self ..), ?_⟩
  change Json.NumberText.reread (paidTwice k now).amount = _
  rw [amount_paidTwice]
  exact sum_of_tenths.2

/-- After payments of 0.1 and 1.3, what is read is near what the second payment returned. -/
theorem written_row_read_back_tenths :
    ∃ (k : Key) (now : Timestamp) (programs : Fin 1 → Session (Except Error Record))
      (desk : Desk) (found : Record),
      (∀ _ : Fin 1, (Write.credit ⟨k, tenth⟩).Dated) ∧
      Turns Ticks (fun _ => (Write.credit ⟨k, tenth⟩).program) Store.empty
        [(0, ⟨.get (.ofKey k), .ok none⟩), (0, ⟨.now, now⟩),
          (0, ⟨.create (Record.ofKey k tenth now), .ok ()⟩)] programs
        (Store.empty.write k (Record.ofKey k tenth now)) ∧
      (Write.credit ⟨k, thirteenTenths⟩).Dated ∧ now.Proper ∧
      (Write.credit ⟨k, thirteenTenths⟩).program.run Desk.answer
        ⟨Store.empty.write k (Record.ofKey k tenth now), fun _ => now⟩ =
        (.ok (paidTwice k now), desk) ∧
      (paidTwice k now).amount.isFinite = true ∧
      desk.store.get (.ofKey k) = .ok (some found) ∧ (paidTwice k now).ReadsAs found := by
  let k : Key := ⟨"alice", "sepolia", .evm, ""⟩
  let now : Timestamp := ⟨2024, 1, 2, 3, 4, 5, 0⟩
  have proper : now.Proper := ⟨by decide, by decide⟩
  have dated : ∀ _ : Fin 1, (Write.credit ⟨k, tenth⟩).Dated := fun _ => trivial
  have idle : Turns Ticks (fun _ : Fin 1 => (Write.credit ⟨k, tenth⟩).program) Store.empty []
    (fun _ => (Write.credit ⟨k, tenth⟩).program) Store.empty := .start
  have first := turns_create (i := 0) (c := ⟨k, tenth⟩) idle rfl proper rfl
  have second := run_second_payment k proper
  have finite := isFinite_paidTwice k now
  obtain ⟨found, read, reads⟩ := written_row_read_back (w := .credit ⟨k, thirteenTenths⟩) dated first
    trivial (fun _ => proper) second finite
  exact ⟨k, now, _, _, found, dated, first, trivial, proper, second, finite, read, reads⟩

/-- The payment returns one number and the next reading another. -/
theorem read_back_other_than_returned :
    ∃ (k : Key) (now : Timestamp) (desk₁ desk₂ : Desk) (row₁ row₂ found : Record), now.Proper ∧
      (credit k tenth).run Desk.answer ⟨Store.empty, fun _ => now⟩ = (.ok row₁, desk₁) ∧
      (credit k thirteenTenths).run Desk.answer desk₁ = (.ok row₂, desk₂) ∧
      row₂.amount = ⟨0x3ff6666666666667⟩ ∧
      desk₂.store.get (.ofKey k) = .ok (some found) ∧ found.amount = ⟨0x3ff6666666666666⟩ := by
  let k : Key := ⟨"alice", "sepolia", .evm, ""⟩
  let now : Timestamp := ⟨2024, 1, 2, 3, 4, 5, 0⟩
  have proper : now.Proper := ⟨by decide, by decide⟩
  have first := @run_credit_of_none ⟨Store.empty, fun _ => now⟩ k tenth rfl
  obtain ⟨read, amount⟩ := get_paidTwice k proper (Store.empty.write k (Record.ofKey k tenth now))
  exact ⟨k, now, _, _, _, _, _, proper, first, run_second_payment k proper, amount_paidTwice k now,
    read, amount⟩

end Moved

end TokenFaucet.Ledger
