import TokenFaucet.Proofs.Dialogue.Turns
import TokenFaucet.Proofs.Ledger.Atomic
import TokenFaucet.Proofs.Ledger.Posting

set_option autoImplicit false

namespace TokenFaucet

namespace Timestamp

/-- The fields of a moment, the longest span first. -/
def fields (t : Timestamp) : List Int :=
  [t.year, t.month, t.day, t.hour, t.minute, t.second, t.nanosecond]

/-- One moment is not later than another: the first field that differs is less. -/
instance : LE Timestamp :=
  ⟨fun a b => a.fields ≤ b.fields⟩

instance (a b : Timestamp) : Decidable (a ≤ b) :=
  inferInstanceAs (Decidable (a.fields ≤ b.fields))

protected theorem le_refl (t : Timestamp) : t ≤ t := by
  change t.fields ≤ t.fields
  exact le_refl t.fields

protected theorem le_trans {a b c : Timestamp} (first : a ≤ b) (second : b ≤ c) : a ≤ c := by
  change a.fields ≤ b.fields at first
  change b.fields ≤ c.fields at second
  exact le_trans first second

end Timestamp

namespace Ledger

open Dialogue (Turns)
open Number (Binary64)
open Store (added rowOf)

/-- A ledger, and what its clock told last. -/
structure Clocked where
  store : Store
  last : Timestamp

/-- A step of the ledger at a moment that is not before the last one. -/
def ClockTicks (q : Query) (w : Clocked) (a : q.Answer) (w' : Clocked) : Prop :=
  w.last ≤ w'.last ∧ w'.last.Proper ∧ w.store.answer w'.last q = (a, w'.store)

namespace Record

/-- A row that was created at a moment or before. -/
structure Past (t : Timestamp) (r : Record) : Prop where
  dated : r.Dated
  createdAt : r.createdAt ≤ t

/-- A row whose moments are in order, and that was changed at a moment or before. -/
structure Punctual (t : Timestamp) (r : Record) : Prop where
  dated : r.Dated
  inOrder : r.createdAt ≤ r.updatedAt
  updatedAt : r.updatedAt ≤ t

variable {t t' : Timestamp} {r : Record}

theorem Past.mono (past : r.Past t) (later : t ≤ t') : r.Past t' :=
  ⟨past.dated, Timestamp.le_trans past.createdAt later⟩

theorem Punctual.past (punctual : r.Punctual t) : r.Past t :=
  ⟨punctual.dated, Timestamp.le_trans punctual.inOrder punctual.updatedAt⟩

theorem Punctual.mono (punctual : r.Punctual t) (later : t ≤ t') : r.Punctual t' :=
  ⟨punctual.dated, punctual.inOrder, Timestamp.le_trans punctual.updatedAt later⟩

theorem punctual_ofKey (k : Key) (amount : Binary64) (proper : t.Proper) :
    (Record.ofKey k amount t).Punctual t :=
  ⟨⟨proper, proper⟩, Timestamp.le_refl t, Timestamp.le_refl t⟩

theorem Past.punctual_added (past : r.Past t) (delta : Binary64) (proper : t'.Proper)
    (later : t ≤ t') : (added r delta t').Punctual t' :=
  ⟨⟨past.dated.createdAt, proper⟩, Timestamp.le_trans past.createdAt later, Timestamp.le_refl t'⟩

end Record

/-- What a clock tells at a moment. -/
def ToldAt (t : Timestamp) : (q : Query) → q.Answer → Prop
  | .now, now => now = t ∧ t.Proper
  | .get _, _ => True
  | .list _, _ => True
  | .create _, _ => True
  | .increment _ _, _ => True

/-- A program that creates punctual rows only, and ends with one that was written. -/
inductive OnTime : Timestamp → Session (Except Error Record) → Prop where
  | failed {t : Timestamp} (e : Error) : OnTime t (.done (.error e))
  | wrote {t : Timestamp} {row : Record} (punctual : row.Punctual t) : OnTime t (.done (.ok row))
  | ask {t : Timestamp} {q : Query} {next : q.Answer → Session (Except Error Record)}
      (creates : ∀ r, q = .create r → r.Punctual t)
      (onward : ∀ t' a, t ≤ t' → ToldAt t' q a →
        (∀ row, written? ⟨q, a⟩ = some row → row.Punctual t') → OnTime t' (next a)) :
      OnTime t (.ask q next)

section Programs

variable {t t' : Timestamp} {program : Session (Except Error Record)}

/-- A program that waits is still on time. -/
theorem OnTime.mono (onTime : OnTime t program) (later : t ≤ t') : OnTime t' program := by
  cases onTime with
  | failed e => exact .failed e
  | wrote punctual => exact .wrote (punctual.mono later)
  | ask creates onward =>
      refine .ask (fun r same => (creates r same).mono later) fun t'' a after => ?_
      exact onward t'' a (Timestamp.le_trans later after)

theorem onTime_increment (t : Timestamp) (k : Key) (delta : Binary64) :
    OnTime t (.ask (.increment k delta) .done) := by
  refine .ask (fun r same => nomatch same) ?_
  rintro t' (e | row) - - wrote
  · exact .failed e
  · exact .wrote (wrote row rfl)

theorem onTime_credit (t : Timestamp) (k : Key) (delta : Binary64) : OnTime t (credit k delta) := by
  refine .ask (fun r same => nomatch same) ?_
  rintro t₁ (e | _ | row) - - -
  · exact .failed e
  · refine .ask (fun r same => nomatch same) ?_
    rintro t₂ now - ⟨rfl, proper⟩ -
    refine .ask ?_ ?_
    · rintro r ⟨⟩
      exact Record.punctual_ofKey k delta proper
    · rintro t₃ (e | _) - - wrote
      · cases e with
        | duplicate => exact onTime_increment t₃ k delta
        | notFound => exact .failed .notFound
        | storage why => exact .failed (.storage why)
        | unreadable why => exact .failed (.unreadable why)
      · exact .wrote (wrote _ rfl)
  · exact onTime_increment t₁ k delta

end Programs

theorem Store.Holds.imp {P Q : Record → Prop} {s : Store} (holds : s.Holds P)
    (weaker : ∀ r, P r → Q r) : s.Holds Q where
  ordered := holds.ordered
  rows := by
    intro row mem
    obtain ⟨r, own, same⟩ := holds.rows row mem
    exact ⟨r, weaker r own, same⟩

/-- A row that was there, or whose moments are in order, and that was created at a moment or before. -/
structure Record.Kept (s₀ : Store) (t : Timestamp) (r : Record) : Prop where
  past : r.Past t
  kept : rowOf r ∈ s₀.rows ∨ r.createdAt ≤ r.updatedAt

section Step

variable {s₀ : Store} {w w' : Clocked} {q : Query} {a : q.Answer}

theorem Record.Kept.mono {t t' : Timestamp} {r : Record} (kept : r.Kept s₀ t) (later : t ≤ t') :
    r.Kept s₀ t' :=
  ⟨kept.past.mono later, kept.kept⟩

theorem Record.Punctual.kept {t : Timestamp} {r : Record} (punctual : r.Punctual t) :
    r.Kept s₀ t :=
  ⟨punctual.past, .inr punctual.inOrder⟩

/-- What one step does: it writes a punctual row or leaves every row alone. -/
theorem ClockTicks.cases (ticks : ClockTicks q w a w') (holds : w.store.Holds (Record.Kept s₀ w.last))
    (creates : ∀ r, q = .create r → r.Punctual w.last) :
    ToldAt w'.last q a ∧
      ((written? ⟨q, a⟩ = none ∧ w'.store = w.store) ∨
        ∃ row : Record, written? ⟨q, a⟩ = some row ∧ row.Punctual w'.last ∧
          w'.store = w.store.write row.key row) := by
  obtain ⟨later, proper, answered⟩ := ticks
  cases q with
  | now =>
      obtain ⟨told, same⟩ := Prod.mk.inj answered
      exact ⟨⟨told.symm, proper⟩, .inl ⟨rfl, same.symm⟩⟩
  | get f => exact ⟨trivial, .inl ⟨rfl, (Prod.mk.inj answered).2.symm⟩⟩
  | list f => exact ⟨trivial, .inl ⟨rfl, (Prod.mk.inj answered).2.symm⟩⟩
  | create row =>
      change w.store.create row = _ at answered
      refine ⟨trivial, ?_⟩
      obtain ⟨-, created⟩ | ⟨-, created⟩ := holds.create_cases row
      · obtain ⟨rfl, same⟩ := Prod.mk.inj (created.symm.trans answered)
        exact .inl ⟨rfl, same.symm⟩
      · obtain ⟨rfl, same⟩ := Prod.mk.inj (created.symm.trans answered)
        exact .inr ⟨row, rfl, (creates row rfl).mono later, same.symm⟩
  | increment k delta =>
      change w.store.increment k delta w'.last = _ at answered
      refine ⟨trivial, ?_⟩
      obtain ⟨-, added⟩ | ⟨-, added⟩ | ⟨r, own, rfl, -, -, added⟩ :=
        holds.increment_cases (fun _ kept => kept.past.dated) k delta w'.last
      · obtain ⟨rfl, same⟩ := Prod.mk.inj (added.symm.trans answered)
        exact .inl ⟨rfl, same.symm⟩
      · obtain ⟨rfl, same⟩ := Prod.mk.inj (added.symm.trans answered)
        exact .inl ⟨rfl, same.symm⟩
      · obtain ⟨rfl, same⟩ := Prod.mk.inj (added.symm.trans answered)
        exact .inr ⟨_, rfl, own.past.punctual_added delta proper later, same.symm⟩

/-- A step keeps the rows of the ledger and the program that takes it. -/
theorem ClockTicks.keeps {next : q.Answer → Session (Except Error Record)}
    (ticks : ClockTicks q w a w') (holds : w.store.Holds (Record.Kept s₀ w.last))
    (onTime : OnTime w.last (.ask q next)) :
    w'.store.Holds (Record.Kept s₀ w'.last) ∧ OnTime w'.last (next a) := by
  cases onTime with
  | ask creates onward =>
  have older := holds.imp fun r kept => kept.mono ticks.1
  obtain ⟨told, ⟨nothing, same⟩ | ⟨row, wrote, punctual, same⟩⟩ := ticks.cases holds creates
  · refine ⟨same ▸ older, onward _ a ticks.1 told fun row wrote => ?_⟩
    rw [nothing] at wrote
    cases wrote
  · refine ⟨same ▸ older.write punctual.kept, onward _ a ticks.1 told fun row' wrote' => ?_⟩
    cases wrote.symm.trans wrote'
    exact punctual

end Step

section Run

variable {ι : Type} [DecidableEq ι] {programs programs' : ι → Session (Except Error Record)}
  {s₀ : Store} {w w' : Clocked} {trace : List (ι × Turn)}

/-- Programs that are on time stay so in any order of their turns, and keep the rows of the ledger. -/
theorem keeps_of_turns (run : Turns ClockTicks programs w trace programs' w')
    (holds : w.store.Holds (Record.Kept s₀ w.last)) (onTime : ∀ i, OnTime w.last (programs i)) :
    w'.store.Holds (Record.Kept s₀ w'.last) ∧ ∀ i, OnTime w'.last (programs' i) := by
  induction run with
  | start => exact ⟨holds, onTime⟩
  | @turn trace programs' w' i q next a w'' before asks ticks ih =>
      obtain ⟨kept, others⟩ := ih
      have own := others i
      rw [asks] at own
      obtain ⟨after, own⟩ := ticks.keeps kept own
      refine ⟨after, fun j => ?_⟩
      by_cases same : j = i
      · subst same
        rwa [Function.update_self]
      · rw [Function.update_of_ne same]
        exact (others j).mono ticks.1

end Run

section Credit

variable {ι : Type} [DecidableEq ι] {start programs : ι → Session (Except Error Record)}
  {trace : List (ι × Turn)} {w : Clocked} {s : Store} {i : ι} {c : Call} {t now : Timestamp}

/-- A credit that takes its turns at once, at one moment, and finds no row. -/
theorem clocked_create (before : Turns ClockTicks start w trace programs ⟨s, t⟩)
    (asks : programs i = c.program) (later : t ≤ now) (proper : now.Proper)
    (absent : s.text? c.key = none) :
    Turns ClockTicks start w
      (trace ++ [(i, ⟨.get (.ofKey c.key), .ok none⟩), (i, ⟨.now, now⟩),
        (i, ⟨.create (Record.ofKey c.key c.delta now), .ok ()⟩)])
      (Function.update programs i (.done (.ok (Record.ofKey c.key c.delta now))))
      ⟨s.write c.key (Record.ofKey c.key c.delta now), now⟩ := by
  have got : ClockTicks (.get (.ofKey c.key)) ⟨s, t⟩ (.ok none) ⟨s, now⟩ :=
    ⟨later, proper, congrArg (·, s) (Store.find_of_none absent)⟩
  have told : ClockTicks .now ⟨s, now⟩ now ⟨s, now⟩ := ⟨Timestamp.le_refl now, proper, rfl⟩
  have created : ClockTicks (.create (Record.ofKey c.key c.delta now)) ⟨s, now⟩ (.ok ())
      ⟨s.write c.key (Record.ofKey c.key c.delta now), now⟩ :=
    ⟨Timestamp.le_refl now, proper,
      Store.create_of_none (r := Record.ofKey c.key c.delta now) absent⟩
  exact turns_creates before asks got told created

/-- A credit that takes its turns at once, at one moment, and finds a row. -/
theorem clocked_add {r : Record} (before : Turns ClockTicks start w trace programs ⟨s, t⟩)
    (asks : programs i = c.program) (later : t ≤ now) (proper : now.Proper) (writable : r.Writable)
    (found : s.text? c.key = some r.text) :
    Turns ClockTicks start w
      (trace ++ [(i, ⟨.get (.ofKey c.key), .ok (some r.reread)⟩),
        (i, ⟨.increment c.key c.delta, .ok (added r c.delta now)⟩)])
      (Function.update programs i (.done (.ok (added r c.delta now))))
      ⟨s.write c.key (added r c.delta now), now⟩ := by
  have got : ClockTicks (.get (.ofKey c.key)) ⟨s, t⟩ (.ok (some r.reread)) ⟨s, now⟩ :=
    ⟨later, proper, congrArg (·, s) (Store.find_of_some writable found)⟩
  have incremented : ClockTicks (.increment c.key c.delta) ⟨s, now⟩ (.ok (added r c.delta now))
      ⟨s.write c.key (added r c.delta now), now⟩ :=
    ⟨Timestamp.le_refl now, proper, Store.increment_of_some writable found c.delta now⟩
  exact turns_adds before asks got incremented

end Credit

/-- Every operation on a ledger that operations led to writes one row or leaves every row alone. If no
row of the ledger is from the future and the clock never goes back, credits, in any order of their turns,
produce only rows that were not changed before they were created, and leave no row from the future. -/
theorem atomic_and_in_order {s : Store} (arises : s.Arises) :
    s.Atomic ∧ ∀ {ι : Type} [DecidableEq ι] {calls : ι → Call} {t : Timestamp}
      {trace : List (ι × Turn)} {programs : ι → Session (Except Error Record)} {w : Clocked},
      s.Holds (Record.Past t) →
      Turns ClockTicks (fun i => (calls i).program) ⟨s, t⟩ trace programs w →
        (∀ i row, programs i = .done (.ok row) → row.createdAt ≤ row.updatedAt) ∧
          (∀ row ∈ w.store.rows, row ∈ s.rows ∨
            ∃ r : Record, r.Dated ∧ row = rowOf r ∧ r.createdAt ≤ r.updatedAt) ∧
          w.store.Holds (Record.Past w.last) := by
  refine ⟨arises.atomic, fun {ι} _ {calls t trace programs w} past run => ?_⟩
  have begun : s.Holds (Record.Kept s t) := by
    refine ⟨past.ordered, fun row mem => ?_⟩
    obtain ⟨r, own, rfl⟩ := past.rows row mem
    exact ⟨r, ⟨own, .inl mem⟩, rfl⟩
  obtain ⟨holds, onTime⟩ := keeps_of_turns run begun fun i => onTime_credit t _ _
  refine ⟨fun i row ended => ?_, fun row mem => ?_, holds.imp fun _ kept => kept.past⟩
  · have own := onTime i
    rw [ended] at own
    cases own with
    | wrote punctual => exact punctual.inOrder
  · -- a row was there before, or its moments are in order
    obtain ⟨r, own, rfl⟩ := holds.rows row mem
    exact own.kept.imp_right fun inOrder => ⟨r, own.past.dated, rfl, inOrder⟩

/-- Two payments to one key, a second apart: the row keeps the moment of the first. -/
theorem atomic_and_in_order_twice :
    ∃ (c : Call) (first second : Timestamp) (trace : List (Bool × Turn))
      (programs : Bool → Session (Except Error Record)) (s : Store) (row : Record),
      Store.empty.Arises ∧ Store.empty.Holds (Record.Past first) ∧
        Turns ClockTicks (fun _ => c.program) ⟨Store.empty, first⟩ trace programs ⟨s, second⟩ ∧
        programs true = .done (.ok row) ∧ row.createdAt = first ∧ row.updatedAt = second ∧
        first ≠ second ∧ Store.empty.Atomic ∧ row.createdAt ≤ row.updatedAt ∧
        ∀ row ∈ s.rows, ∃ r : Record, r.Dated ∧ row = rowOf r ∧ r.createdAt ≤ r.updatedAt := by
  let c : Call := ⟨⟨"alice", "sepolia", .evm, ""⟩, ⟨0x3ff8000000000000⟩⟩
  let first : Timestamp := ⟨2024, 1, 2, 3, 4, 5, 0⟩
  let second : Timestamp := ⟨2024, 1, 2, 3, 4, 6, 0⟩
  have proper : first.Proper := ⟨by decide, by decide⟩
  have later : second.Proper := ⟨by decide, by decide⟩
  have writable : (Record.ofKey c.key c.delta first).Writable := ⟨by decide, proper, proper⟩
  have idle : Turns ClockTicks (fun _ : Bool => c.program) ⟨Store.empty, first⟩ []
    (fun _ => c.program) ⟨Store.empty, first⟩ := .start
  have once := clocked_create (i := false) (c := c) idle rfl (Timestamp.le_refl first) proper rfl
  have after : first ≤ second := by decide
  have twice := clocked_add (i := true) (c := c) once rfl after later writable
    (Store.text?_write_self ..)
  have past : Store.empty.Holds (Record.Past first) := Store.holds_empty _
  obtain ⟨atomic, clocked⟩ := atomic_and_in_order .empty
  obtain ⟨returned, stored, -⟩ := @clocked Bool _ (fun _ => c) _ _ _ _ past twice
  refine ⟨c, first, second, _, _, _, _, .empty, past, twice, Function.update_self .., rfl, rfl,
    by decide, atomic, returned true _ (Function.update_self ..), fun row mem => ?_⟩
  obtain none | kept := stored row mem
  · exact nomatch none
  · exact kept

end Ledger

end TokenFaucet
