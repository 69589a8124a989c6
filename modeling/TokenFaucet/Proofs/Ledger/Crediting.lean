import TokenFaucet.Proofs.Faucet.World
import TokenFaucet.Proofs.Ledger.Store

set_option autoImplicit false

namespace TokenFaucet.Ledger

open Number (Binary64)
open Store (Alike added)

/-- A question to the ledger and its answer. -/
abbrev Turn := Dialogue.Turn Query Query.Answer

/-- A credit that is asked for. -/
structure Call where
  key : Key
  delta : Binary64

def Call.program (c : Call) : Session (Except Error Record) :=
  credit c.key c.delta

/-- A step of the ledger at some moment that its clock may tell. -/
def Ticks (q : Query) (s : Store) (r : q.Answer) (s' : Store) : Prop :=
  ∃ now : Timestamp, now.Proper ∧ s.answer now q = (r, s')

/-- The row that a turn wrote, if it wrote one. -/
def written? : Turn → Option Record
  | ⟨.create r, .ok _⟩ => some r
  | ⟨.create _, .error _⟩ => none
  | ⟨.increment _ _, .ok row⟩ => some row
  | ⟨.increment _ _, .error _⟩ => none
  | ⟨.now, _⟩ => none
  | ⟨.get _, _⟩ => none
  | ⟨.list _, _⟩ => none

section ByItself

variable {desk : Desk} {k : Key} {delta : Binary64}

/-- A credit that runs alone and finds no row. -/
theorem run_credit_of_none (absent : desk.store.text? k = none) :
    (credit k delta).run Desk.answer desk =
      (.ok (Record.ofKey k delta (desk.clock 1)),
        ⟨desk.store.write k (Record.ofKey k delta (desk.clock 1)), fun n => desk.clock (n + 3)⟩) := by
  have got : desk.store.get (.ofKey k) = .ok none := Store.find_of_none absent
  have created : desk.store.create (Record.ofKey k delta (desk.clock 1)) =
      (.ok (), desk.store.write k (Record.ofKey k delta (desk.clock 1))) :=
    Store.create_of_none absent
  simp only [credit, Dialogue.run, Desk.answer, Store.answer, got, created]

/-- A credit that runs alone and finds a row. -/
theorem run_credit_of_some {r : Record} (writable : r.Writable)
    (found : desk.store.text? k = some r.text) :
    (credit k delta).run Desk.answer desk =
      (.ok (added r delta (desk.clock 1)),
        ⟨desk.store.write k (added r delta (desk.clock 1)), fun n => desk.clock (n + 2)⟩) := by
  have got : desk.store.get (.ofKey k) = .ok (some r.reread) := Store.find_of_some writable found
  have incremented := Store.increment_of_some writable found delta (desk.clock 1)
  simp only [credit, Dialogue.run, Desk.answer, Store.answer, got, incremented]

end ByItself

/-- The stages of a credit that has not written its row. One that goes on to add to a row has seen
that the row is there, and no row goes away. -/
inductive Pending (c : Call) (s : Store) : Session (Except Error Record) → Prop where
  | start : Pending c s c.program
  | present {r : Record} (writable : r.Writable) (key : r.key = c.key)
      (found : s.text? c.key = some r.text) :
      Pending c s (.ask (.increment c.key c.delta) .done)
  | creating {now : Timestamp} {next : Except Error Unit → Session (Except Error Record)}
      (proper : now.Proper) (first : next (.ok ()) = .done (.ok (Record.ofKey c.key c.delta now)))
      (second : next (.error .duplicate) = .ask (.increment c.key c.delta) .done) :
      Pending c s (.ask (.create (Record.ofKey c.key c.delta now)) next)
  | absent {next : Timestamp → Session (Except Error Record)}
      (onward : ∀ now, now.Proper → Pending c s (next now)) : Pending c s (.ask .now next)

/-- A stage stays one when others write. -/
theorem Pending.write {c : Call} {s : Store} {program : Session (Except Error Record)}
    (pending : Pending c s program) {row : Record} (writable : row.Writable) :
    Pending c (s.write row.key row) program := by
  induction pending with
  | start => exact .start
  | @present r old key found =>
      by_cases same : c.key = row.key
      · refine .present writable same.symm ?_
        rw [Store.text?_write, if_pos same]
      · refine .present old key ?_
        rw [Store.text?_write, if_neg same]
        exact found
  | creating proper first second => exact .creating proper first second
  | absent onward ih => exact .absent ih

theorem Pending.not_done {c : Call} {s : Store} {program : Session (Except Error Record)}
    {r : Except Error Record} (pending : Pending c s program) (done : program = .done r) : False := by
  cases pending <;> cases done

/-- The credit writes such a row when it runs alone, on any ledger that is alike. -/
def Alone (c : Call) (s : Store) (row : Record) : Prop :=
  ∀ desk : Desk, Alike s desk.store → (∀ n, (desk.clock n).Proper) → row.amount.isFinite = true →
    ∃ row' clock, row'.Writable ∧ row.paid = row'.paid ∧ (∀ n, (clock n).Proper) ∧
      c.program.run Desk.answer desk = (.ok row', ⟨desk.store.write c.key row', clock⟩)

/-- What a turn of a pending credit leads to: it is pending still and the ledger stays as it is, or
it has written its row. -/
inductive Onward (c : Call) (s : Store) (turn : Turn) (program : Session (Except Error Record))
    (s' : Store) : Prop where
  | next (nothing : written? turn = none) (pending : Pending c s program) (same : s' = s)
  | last {row : Record} (wrote : written? turn = some row) (ended : program = .done (.ok row))
      (key : row.key = c.key) (moments : row.createdAt.Proper ∧ row.updatedAt.Proper)
      (grown : s' = s.write c.key row)
      (alone : Alone c s row)

/-- Rows of the same text have the same amount when they are read. -/
theorem reread_amount_eq {r r' : Record} (writable : r.Writable) (writable' : r'.Writable)
    (same : r.text = r'.text) : r.reread.amount = r'.reread.amount := by
  have read := Record.parse_text writable
  rw [same, Record.parse_text writable'] at read
  rw [Except.ok.inj read]

theorem alone_of_some {c : Call} {s : Store} {row : Record} {now : Timestamp} (key : row.key = c.key)
    (writable : row.Writable) (found : s.text? c.key = some row.text) :
    Alone c s (added row c.delta now) := by
  intro desk alike proper finite
  obtain ⟨absent, -⟩ | ⟨r, r', readable, readable', paid, own, kept, kept'⟩ :=
    alike.text?_cases c.key
  · rw [found] at absent
    cases absent
  · rw [found] at kept
    have first := reread_amount_eq writable readable (Option.some.inj kept)
    have second : r.reread.amount = r'.reread.amount :=
      congrArg Json.NumberText.reread (Prod.mk.inj paid).2
    have amounts : (added row c.delta now).amount = (added r' c.delta (desk.clock 1)).amount := by
      change row.reread.amount.add c.delta = r'.reread.amount.add c.delta
      rw [first, second]
    have keys : (added row c.delta now).key = (added r' c.delta (desk.clock 1)).key := by
      rw [Store.added_key, Store.added_key, key, ← own]
      exact (Prod.mk.inj paid).1
    rw [amounts] at finite
    exact ⟨added r' c.delta (desk.clock 1), fun n => desk.clock (n + 2),
      Store.added_writable readable' finite (proper 1), Prod.ext keys amounts,
      fun n => proper (n + 2), run_credit_of_some readable' kept'⟩

theorem alone_of_none {c : Call} {s : Store} {now : Timestamp} (absent : s.text? c.key = none) :
    Alone c s (Record.ofKey c.key c.delta now) := by
  intro desk alike proper finite
  obtain ⟨-, absent'⟩ | ⟨r, r', -, -, -, -, kept, -⟩ := alike.text?_cases c.key
  · exact ⟨Record.ofKey c.key c.delta (desk.clock 1), fun n => desk.clock (n + 3),
      ⟨finite, proper 1, proper 1⟩, rfl, fun n => proper (n + 3), run_credit_of_none absent'⟩
  · rw [absent] at kept
    cases kept

/-- What a credit writes: the delta itself, or what the key holds and the delta. -/
def summed (held : Option Binary64) (delta : Binary64) : Binary64 :=
  held.elim delta (·.add delta)

theorem Alone.amount_eq {c : Call} {s : Store} {row : Record} (alone : Alone c s row)
    (sound : s.Sound) (writable : row.Writable) : row.amount = summed (s.held c.key) c.delta := by
  obtain ⟨row', clock, -, paid, -, ran⟩ :=
    alone ⟨s, fun _ => row.createdAt⟩ sound.alike (fun _ => writable.createdAt) writable.amount
  have amount : row.amount = row'.amount := (Prod.mk.inj paid).2
  obtain absent | ⟨r, readable, -, found⟩ := sound.text?_cases c.key
  · have same := (run_credit_of_none absent).symm.trans ran
    cases same
    rw [amount, Store.held_of_none absent]
    rfl
  · have same := (run_credit_of_some readable found).symm.trans ran
    cases same
    rw [amount, Store.held_of_some readable found]
    rfl

theorem Pending.step {c : Call} {s s' : Store} (sound : s.Sound)
    {program : Session (Except Error Record)} {q : Query}
    {next : q.Answer → Session (Except Error Record)} {r : q.Answer}
    (pending : Pending c s program) (asks : program = .ask q next) (ticks : Ticks q s r s') :
    Onward c s ⟨q, r⟩ (next r) s' := by
  obtain ⟨now, proper, answered⟩ := ticks
  cases pending with
  | start =>
      cases asks
      have told : s.find c.key = r ∧ s = s' := Prod.mk.inj answered
      obtain ⟨same, rfl⟩ := told
      obtain absent | ⟨row, writable, key, found⟩ := sound.text?_cases c.key
      · rw [Store.find_of_none absent] at same
        subst same
        refine .next rfl (.absent fun now proper => ?_) rfl
        exact .creating proper rfl rfl
      · rw [Store.find_of_some writable found] at same
        subst same
        exact .next rfl (.present writable key found) rfl
  | @present row writable key found =>
      cases asks
      have told := Store.increment_of_some writable found c.delta now
      have same : (.ok (added row c.delta now), s.write c.key (added row c.delta now)) = (r, s') :=
        told.symm.trans answered
      obtain ⟨rfl, rfl⟩ := Prod.mk.inj same
      exact @Onward.last c s _ _ _ (added row c.delta now) rfl rfl key
        ⟨writable.createdAt, proper⟩ rfl (alone_of_some key writable found)
  | @creating told next properTold first second =>
      cases asks
      obtain absent | ⟨row, writable, key, found⟩ := sound.text?_cases c.key
      · have created : s.create (Record.ofKey c.key c.delta told) =
            (.ok (), s.write c.key (Record.ofKey c.key c.delta told)) := Store.create_of_none absent
        have same : (.ok (), s.write c.key (Record.ofKey c.key c.delta told)) = (r, s') :=
          created.symm.trans answered
        obtain ⟨rfl, rfl⟩ := Prod.mk.inj same
        exact @Onward.last c s _ _ _ (Record.ofKey c.key c.delta told) rfl first rfl
          ⟨properTold, properTold⟩ rfl (alone_of_none absent)
      · have refused : s.create (Record.ofKey c.key c.delta told) = (.error .duplicate, s) :=
          Store.create_of_some found
        have same : (.error .duplicate, s) = (r, s') := refused.symm.trans answered
        obtain ⟨rfl, rfl⟩ := Prod.mk.inj same
        refine .next rfl ?_ rfl
        rw [second]
        exact .present writable key found
  | @absent next onward =>
      cases asks
      have told : now = r ∧ s = s' := Prod.mk.inj answered
      obtain ⟨rfl, rfl⟩ := told
      exact .next rfl (onward now proper) rfl

end TokenFaucet.Ledger
