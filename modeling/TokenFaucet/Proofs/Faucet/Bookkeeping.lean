import TokenFaucet.Proofs.Faucet.Balances
import TokenFaucet.Proofs.Faucet.Handover
import TokenFaucet.Proofs.Faucet.Transactions
import TokenFaucet.Proofs.Ledger.Payments

set_option autoImplicit false

namespace TokenFaucet.Faucet

open Dialogue (Turns)
open Ledger (Answered Call IsPayment Key Onward Pending Positive Record Store Ticks)

variable {ι : Type}

/-- What a question leads to: networks answer as they like, and the ledger answers by its clock. -/
def Opens : (q : Query) → Store → q.Answer → Store → Prop
  | .network _, s, _, s' => s' = s
  | .ledger q, s, r, s' => Ticks q s r s'

namespace Turn

/-- The row that a turn wrote, if it wrote one. -/
def written? : Turn → Option Record
  | ⟨.network _, _⟩ => none
  | ⟨.ledger q, r⟩ => Ledger.written? ⟨q, r⟩

/-- The ledger's error in a turn, if it was answered with one. -/
def fault? : Turn → Option Ledger.Error
  | ⟨.network _, _⟩ => none
  | ⟨.ledger q, r⟩ => Ledger.fault? ⟨q, r⟩

/-- The ledger is asked for the row of a key, and there is none. -/
def findsNone (k : Key) : Turn :=
  ⟨.ledger (.get (.ofKey k)), .ok none⟩

/-- A row is not created since its key has one. -/
def refuses (r : Record) : Turn :=
  ⟨.ledger (.create r), .error .duplicate⟩

end Turn

/-- Somebody else wrote the row of a key. -/
def OtherWrote (i : ι) (k : Key) (turns : List (ι × Turn)) : Prop :=
  ∃ taken ∈ turns, taken.1 ≠ i ∧ ∃ row, taken.2.written? = some row ∧ row.key = k

/-- A turn in which a row was not created: since the key was seen to have none, another transfer has
written one. -/
def Overtaken (taken : ι × Turn) (trace : List (ι × Turn)) : Prop :=
  ∃ r before between after, taken.2 = .refuses r ∧
    trace = before ++ (taken.1, .findsNone r.key) :: between ++ taken :: after ∧
    OtherWrote taken.1 r.key between

/-- Transfers one after another: between two turns of one there is none of another. -/
def OneByOne (trace : List (ι × Turn)) : Prop :=
  ∀ before i first between last after, trace = before ++ (i, first) :: between ++ (i, last) :: after →
    ∀ taken ∈ between, taken.1 = i

/-- Of transfers one after another none is overtaken. -/
theorem OneByOne.not_overtaken {trace : List (ι × Turn)} (alone : OneByOne trace) (taken : ι × Turn) :
    ¬ Overtaken taken trace := by
  rintro ⟨r, before, between, after, -, same, other, mem, foreign, -⟩
  exact foreign (alone before taken.1 _ between taken.2 after same other mem)

/-- The key was seen to have no row, and it still has none unless somebody else has written it. -/
def Since (i : ι) (k : Key) (trace : List (ι × Turn)) (s : Store) : Prop :=
  ∃ before between, trace = before ++ (i, .findsNone k) :: between ∧
    (s.text? k = none ∨ OtherWrote i k between)

/-- A credit is about to look for its row, or about to add to it, or it has seen that there is none. -/
inductive Seen (c : Call) (i : ι) (trace : List (ι × Turn)) (s : Store) :
    Ledger.Session (Except Ledger.Error Record) → Prop where
  | first : Seen c i trace s c.program
  | last : Seen c i trace s (.ask (.increment c.key c.delta) .done)
  | absent {program : Ledger.Session (Except Ledger.Error Record)} (since : Since i c.key trace s) :
      Seen c i trace s program

/-- How a transfer stands. -/
inductive Stands (key : Option Key) (i : ι) (trace : List (ι × Turn)) (s : Store) :
    Session (Except FaucetError String) → Prop where
  | refused {e : FaucetError} (other : e.category ≠ .storage) : Stands key i trace s (.done (.error e))
  | credits {c : Call} {program : Ledger.Session (Except Ledger.Error Record)}
      (own : key = some c.key) (payment : IsPayment c.delta) (pending : Pending c s program)
      (seen : Seen c i trace s program) (id : String) :
      Stands key i trace s (crediting program id)
  | paid {k : Key} (own : key = some k) (found : s.text? k ≠ none) (id : String) :
      Stands key i trace s (.done (.ok id))

/-- What holds after every turn. -/
structure Kept (key : ι → Option Key) (trace : List (ι × Turn))
    (programs : ι → Session (Except FaucetError String)) (s : Store) : Prop where
  totals : s.Holds Record.Total
  stands : ∀ i, Until (Stands (key i) i trace s) (programs i)
  rows : ∀ k, s.text? k ≠ none → ∃ i id, programs i = .done (.ok id) ∧ key i = some k
  faults : ∀ taken ∈ trace, taken.2.fault? ≠ none → Overtaken taken trace

section Later

variable {key : Option Key} {i j : ι} {k : Key} {trace : List (ι × Turn)} {s s' : Store} {turn : Turn}

/-- What a turn does to the ledger: nothing, or it writes a row. -/
def Moves (turn : Turn) (s s' : Store) : Prop :=
  s' = s ∨ ∃ row : Record, turn.written? = some row ∧ row.Writable ∧ s' = s.write row.key row

theorem OtherWrote.append (other : OtherWrote i k trace) (later : List (ι × Turn)) :
    OtherWrote i k (trace ++ later) := by
  obtain ⟨taken, mem, wrote⟩ := other
  exact ⟨taken, List.mem_append_left _ mem, wrote⟩

theorem Overtaken.append {taken : ι × Turn} (overtaken : Overtaken taken trace)
    (later : List (ι × Turn)) : Overtaken taken (trace ++ later) := by
  obtain ⟨r, before, between, after, refused, rfl, wrote⟩ := overtaken
  exact ⟨r, before, between, after ++ later, refused, by simp, wrote⟩

theorem Since.append_same (since : Since i k trace s) (x : ι × Turn) : Since i k (trace ++ [x]) s := by
  obtain ⟨before, between, rfl, absent | wrote⟩ := since
  · exact ⟨before, between ++ [x], by simp, .inl absent⟩
  · exact ⟨before, between ++ [x], by simp, .inr (wrote.append [x])⟩

theorem Since.append_other (since : Since i k trace s) (other : j ≠ i) (moves : Moves turn s s') :
    Since i k (trace ++ [(j, turn)]) s' := by
  obtain rfl | ⟨row, wrote, writable, rfl⟩ := moves
  · exact since.append_same _
  obtain ⟨before, between, rfl, absent | earlier⟩ := since
  · refine ⟨before, between ++ [(j, turn)], by simp, ?_⟩
    by_cases own : k = row.key
    · exact .inr ⟨(j, turn), by simp, other, row, wrote, own.symm⟩
    · rw [Store.text?_write, if_neg own]
      exact .inl absent
  · exact ⟨before, between ++ [(j, turn)], by simp, .inr (earlier.append _)⟩

theorem Moves.text?_ne_none (moves : Moves turn s s') (found : s.text? k ≠ none) :
    s'.text? k ≠ none := by
  obtain rfl | ⟨row, -, -, rfl⟩ := moves
  · exact found
  · rw [Store.text?_write]
    split
    · nofun
    · exact found

theorem Seen.imp {c : Call} {program : Ledger.Session (Except Ledger.Error Record)}
    {trace' : List (ι × Turn)} (seen : Seen c i trace s program)
    (onward : Since i c.key trace s → Since i c.key trace' s') : Seen c i trace' s' program := by
  cases seen with
  | first => exact .first
  | last => exact .last
  | absent since => exact .absent (onward since)

/-- A transfer stands as before when another one takes a turn. -/
theorem Stands.append_other {d : Session (Except FaucetError String)} (stands : Stands key i trace s d)
    (other : j ≠ i) (moves : Moves turn s s') : Stands key i (trace ++ [(j, turn)]) s' d := by
  cases stands with
  | refused unlike => exact .refused unlike
  | @credits c program own payment pending seen id =>
      have still : Pending c s' program := by
        obtain rfl | ⟨row, -, writable, rfl⟩ := moves
        · exact pending
        · exact pending.write writable
      exact .credits own payment still (seen.imp fun since => since.append_other other moves) id
  | paid own found id => exact .paid own (moves.text?_ne_none found) id

theorem Stands.append_same {d : Session (Except FaucetError String)} (stands : Stands key i trace s d)
    (x : ι × Turn) : Stands key i (trace ++ [x]) s d := by
  cases stands with
  | refused unlike => exact .refused unlike
  | credits own payment pending seen id =>
      exact .credits own payment pending (seen.imp fun since => since.append_same x) id
  | paid own found id => exact .paid own found id

end Later

section Own

variable {key : Option Key} {i : ι} {trace : List (ι × Turn)} {s s' : Store} {c : Call}
  {q : Ledger.Query} {a : q.Answer} {next : q.Answer → Ledger.Session (Except Ledger.Error Record)}
  {program : Ledger.Session (Except Ledger.Error Record)}

/-- Who asks anything but what a credit asks first and last has seen that there is no row. -/
theorem Seen.since (seen : Seen c i trace s (.ask q next)) (notFirst : q ≠ .get (.ofKey c.key))
    (notLast : q ≠ .increment c.key c.delta) : Since i c.key trace s := by
  generalize asks : Dialogue.ask q next = program at seen
  cases seen with
  | first =>
      cases asks
      exact absurd rfl notFirst
  | last =>
      cases asks
      exact absurd rfl notLast
  | absent since => exact since

theorem seen_of_answered (answered : Answered c s ⟨q, a⟩ program)
    (nothing : Ledger.written? ⟨q, a⟩ = none) (seen : Seen c i trace s (.ask q next)) :
    Seen c i (trace ++ [(i, ⟨.ledger q, a⟩)]) s program := by
  cases answered with
  | absent absent => exact .absent ⟨trace, [], rfl, .inl absent⟩
  | present => exact .last
  | told => exact .absent ((seen.since nofun nofun).append_same _)
  | wrote wrote _ =>
      rw [nothing] at wrote
      cases wrote
  | refused => exact .last

theorem overtaken_of_answered (answered : Answered c s ⟨q, a⟩ program)
    (seen : Seen c i trace s (.ask q next)) (fault : Ledger.fault? ⟨q, a⟩ ≠ none) :
    Overtaken (i, ⟨.ledger q, a⟩) (trace ++ [(i, ⟨.ledger q, a⟩)]) := by
  cases answered with
  | absent => exact absurd rfl fault
  | present => exact absurd rfl fault
  | told => exact absurd rfl fault
  | wrote _ well => exact absurd well fault
  | @refused r own taken =>
      obtain ⟨before, between, rfl, absent | wrote⟩ := seen.since nofun nofun
      · exact absurd absent taken
      · rw [← own] at wrote ⊢
        exact ⟨r, before, between, [], rfl, by simp, wrote⟩

/-- What a turn of a transfer leads to. -/
structure Advances (key : Option Key) (i : ι) (trace : List (ι × Turn)) (s : Store) (turn : Turn)
    (d : Session (Except FaucetError String)) (s' : Store) : Prop where
  moves : Moves turn s s'
  totals : s'.Holds Record.Total
  stands : Until (Stands key i (trace ++ [(i, turn)]) s') d
  paid : ∀ row, turn.written? = some row → key = some row.key ∧ ∃ id, d = .done (.ok id)
  fault : turn.fault? ≠ none → Overtaken (i, turn) (trace ++ [(i, turn)])

theorem advances_of_credits (totals : s.Holds Record.Total) (own : key = some c.key)
    (payment : IsPayment c.delta) (pending : Pending c s (.ask q next))
    (seen : Seen c i trace s (.ask q next)) (id : String) (ticks : Ticks q s a s') :
    Advances key i trace s ⟨.ledger q, a⟩ (crediting (next a) id) s' := by
  have answered := pending.answered totals.sound rfl ticks
  have fault := overtaken_of_answered answered seen
  cases pending.step totals.sound rfl ticks with
  | next nothing still same =>
      subst same
      refine ⟨.inl rfl, totals, .here (.credits own payment still ?_ id), ?_, fault⟩
      · exact seen_of_answered answered nothing seen
      · intro row wrote
        cases nothing.symm.trans wrote
  | @last row wrote ended keys moments grown alone =>
      have total := totals.isTotal_of_written (pending.pays payment rfl) ticks wrote
      have writable : row.Writable := ⟨total.finite, moments.1, moments.2⟩
      rw [← keys] at own grown
      rw [ended, grown]
      refine ⟨.inr ⟨row, wrote, writable, rfl⟩, totals.write ⟨writable, total⟩, ?_, ?_, fault⟩
      · refine .here (.paid own ?_ id)
        rw [Store.text?_write_self]
        nofun
      · intro row' wrote'
        cases wrote.symm.trans wrote'
        exact ⟨own, id, rfl⟩

theorem Until.advances {d : Session (Except FaucetError String)} {q : Query} {r : q.Answer}
    {next : q.Answer → Session (Except FaucetError String)} (totals : s.Holds Record.Total)
    (until_ : Until (Stands key i trace s) d) (asks : d = .ask q next) (opens : Opens q s r s') :
    Advances key i trace s ⟨q, r⟩ (next r) s' := by
  cases until_ with
  | ask onward =>
      cases asks
      cases opens
      exact ⟨.inl rfl, totals, (onward r).mono fun d stands => stands.append_same _, nofun,
        fun fault => absurd rfl fault⟩
  | here stands =>
      cases stands with
      | refused => cases asks
      | paid => cases asks
      | @credits c program own payment pending seen id =>
          cases program with
          | done outcome => exact (pending.not_done rfl).elim
          | ask q' next' =>
              cases asks
              exact advances_of_credits totals own payment pending seen id opens

/-- A transfer that has ended was refused for another reason than the ledger, or it is paid. -/
theorem Stands.done_cases {d : Session (Except FaucetError String)} {r : Except FaucetError String}
    (stands : Stands key i trace s d) (done : d = .done r) :
    (∃ e, r = .error e ∧ e.category ≠ .storage) ∨
      ∃ k id, r = .ok id ∧ key = some k ∧ s.text? k ≠ none := by
  cases stands with
  | @refused e other =>
      cases done
      exact .inl ⟨e, rfl, other⟩
  | @paid k own found id =>
      cases done
      exact .inr ⟨k, id, rfl, own, found⟩
  | @credits c program own payment pending seen id =>
      cases program with
      | done outcome => exact (pending.not_done rfl).elim
      | ask q next => cases done

end Own

section Run

theorem kept_start (f : Faucet) (users : ι → String) (transfers : ι → Transfer) :
    Kept (fun i => f.paidKey (users i) (transfers i)) []
      (fun i => (f.dispatch (users i) (transfers i)).run) .empty where
  totals := Store.holds_empty _
  stands := by
    intro i
    refine (until_dispatch f (users i) (transfers i)).mono ?_
    rintro _ (@⟨e, other⟩ | @⟨c, own, payment, id⟩)
    · exact .refused other
    · exact .credits own payment .start .first id
  rows := fun _ found => absurd rfl found
  faults := fun _ mem => nomatch mem

variable [DecidableEq ι] {key : ι → Option Key} {trace : List (ι × Turn)} {s s' : Store}
  {programs : ι → Session (Except FaucetError String)}

theorem Kept.turn (kept : Kept key trace programs s) {i : ι} {q : Query} {r : q.Answer}
    {next : q.Answer → Session (Except FaucetError String)} (asks : programs i = .ask q next)
    (opens : Opens q s r s') :
    Kept key (trace ++ [(i, ⟨q, r⟩)]) (Function.update programs i (next r)) s' := by
  have advances := (kept.stands i).advances kept.totals asks opens
  refine ⟨advances.totals, fun j => ?_, fun k found => ?_, fun taken mem fault => ?_⟩
  · by_cases own : j = i
    · subst own
      rw [Function.update_self]
      exact advances.stands
    · rw [Function.update_of_ne own]
      exact (kept.stands j).mono fun d stands => stands.append_other (Ne.symm own) advances.moves
  · have earlier (before : s.text? k ≠ none) :
        ∃ j id, Function.update programs i (next r) j = .done (.ok id) ∧ key j = some k := by
      obtain ⟨j, id, ended, own⟩ := kept.rows k before
      have other : j ≠ i := by
        rintro rfl
        rw [asks] at ended
        cases ended
      exact ⟨j, id, by rw [Function.update_of_ne other, ended], own⟩
    obtain rfl | ⟨row, wrote, -, rfl⟩ := advances.moves
    · exact earlier found
    · rw [Store.text?_write] at found
      split at found
      · next same =>
          obtain ⟨own, id, ended⟩ := advances.paid row wrote
          exact ⟨i, id, by rw [Function.update_self, ended], by rw [own, same]⟩
      · exact earlier found
  · rcases List.mem_append.1 mem with before | last
    · exact (kept.faults taken before fault).append _
    · rw [List.mem_singleton.1 last] at fault ⊢
      exact advances.fault fault

theorem kept_of_turns {f : Faucet} {users : ι → String} {transfers : ι → Transfer}
    (run : Turns Opens (fun i => (f.dispatch (users i) (transfers i)).run) Store.empty trace programs s) :
    Kept (fun i => f.paidKey (users i) (transfers i)) trace programs s := by
  induction run with
  | start => exact kept_start f users transfers
  | turn before asks opens ih => exact ih.turn asks opens

end Run

/-- The books after transfers that started with an empty ledger. -/
structure Books (f : Faucet) (users : ι → String) (transfers : ι → Transfer) (trace : List (ι × Turn))
    (programs : ι → Session (Except FaucetError String)) (s : Store) : Prop where
  /-- There is one row for each key that was paid to, and no other. -/
  rows : ∃ rows, s.list .any = .ok rows ∧ (rows.map Record.key).Nodup ∧
    (∀ k, k ∈ rows.map Record.key ↔
      ∃ i id, programs i = .done (.ok id) ∧ f.paidKey (users i) (transfers i) = some k) ∧
    ∀ row ∈ rows, Positive row.amount
  readable : s.Readable
  balances : ∀ (userId : String) (w : World), w.desk.store = s →
    ∃ rows, ((balances userId).run.run World.answer w).1 = .ok rows
  /-- The ledger is not why a transfer fails. -/
  other : ∀ i e, programs i = .done (.error e) → e.category ≠ .storage
  /-- Of two transfers that both find no row and create it, the later is told so, and adds to it; nothing
  else that the ledger is asked fails. -/
  faults : ∀ taken ∈ trace, taken.2.fault? ≠ none → Overtaken taken trace
  faultless : OneByOne trace → ∀ taken ∈ trace, taken.2.fault? = none

theorem run_balances {s : Store} (userId : String) {w : World} (desk : w.desk.store = s)
    {rows : List Record} (read : s.list (Ledger.Filter.any.byUser userId) = .ok rows) :
    ((balances userId).run.run World.answer w).1 = .ok (rows.mergeSort rowLe) := by
  rw [run_balances_eq, desk, read]
  rfl

/-- However transfers take turns, starting with an empty ledger and whatever the networks answer: the
ledger has a row for each key that a transfer was paid to and no other, every amount in it is finite and
positive, it can be read, and no transfer fails for it. -/
theorem books_of_turns [DecidableEq ι] (f : Faucet) (users : ι → String) (transfers : ι → Transfer)
    {trace : List (ι × Turn)} {programs : ι → Session (Except FaucetError String)} {s : Store}
    (run : Turns Opens (fun i => (f.dispatch (users i) (transfers i)).run) Store.empty trace programs s) :
    Books f users transfers trace programs s := by
  have kept := kept_of_turns run
  have readable := kept.totals.sound.readable
  have ended {i : ι} {r : Except FaucetError String} (done : programs i = .done r) :
      (∃ e, r = .error e ∧ e.category ≠ .storage) ∨
        ∃ k id, r = .ok id ∧ f.paidKey (users i) (transfers i) = some k ∧ s.text? k ≠ none := by
    have until_ := kept.stands i
    rw [done] at until_
    cases until_ with
    | here stands => exact stands.done_cases rfl
  refine ⟨?_, readable, fun userId w desk => ?_, fun i e failed => ?_, kept.faults, ?_⟩
  · obtain ⟨rows, read, once, keys, positive⟩ := kept.totals.list_any
    refine ⟨rows, read, once, fun k => (keys k).trans ⟨kept.rows k, ?_⟩, positive⟩
    rintro ⟨i, id, done, own⟩
    obtain ⟨_, same, -⟩ | ⟨k', _, -, own', found⟩ := ended done
    · cases same
    · cases own.symm.trans own'
      exact found
  · obtain ⟨rows, read⟩ := readable.list (Ledger.Filter.any.byUser userId)
    exact ⟨_, run_balances userId desk read⟩
  · obtain ⟨_, same, other⟩ | ⟨_, _, same, -, -⟩ := ended failed
    · cases same
      exact other
    · cases same
  · intro alone taken mem
    by_contra fault
    exact alone.not_overtaken taken (kept.faults taken mem fault)

section Repeating

/-- A world is one of the ways in which questions are answered. -/
theorem opens_of_world {w w' : World} {q : Query} {r : q.Answer}
    (proper : ∀ n, (w.desk.clock n).Proper) (answered : Dialogue.ofMachine World.answer q w r w') :
    Opens q w.desk.store r w'.desk.store ∧ ∀ n, (w'.desk.clock n).Proper := by
  obtain ⟨rfl, rfl⟩ := Prod.ext_iff.1 answered
  match q with
  | .network (.exchange _) => exact ⟨rfl, proper⟩
  | .network (.acquire _) => exact ⟨rfl, proper⟩
  | .network (.release _) => exact ⟨rfl, proper⟩
  | .ledger q => exact ⟨⟨w.desk.clock 0, proper 0, rfl⟩, fun n => proper (n + 1)⟩

theorem turns_of_world [DecidableEq ι] {w w' : World} {trace : List (ι × Turn)}
    {programs programs' : ι → Session (Except FaucetError String)}
    (proper : ∀ n, (w.desk.clock n).Proper)
    (run : Turns (Dialogue.ofMachine World.answer) programs w trace programs' w') :
    Turns Opens programs w.desk.store trace programs' w'.desk.store ∧
      ∀ n, (w'.desk.clock n).Proper := by
  induction run with
  | start => exact ⟨.start, proper⟩
  | turn before asks answered ih =>
      obtain ⟨earlier, later⟩ := ih
      obtain ⟨opens, proper'⟩ := opens_of_world later answered
      exact ⟨earlier.turn asks opens, proper'⟩

/-- The books after the transfers of two users, both of whom were paid. -/
theorem books_of_turns_repeated : ∃ (trace : List (String × Turn))
    (programs : String → Session (Except FaucetError String)) (s : Store),
    Turns Opens (fun user => (repeatingFaucet.dispatch user repeatedTransfer).run) Store.empty trace
      programs s ∧
    programs "alice" = .done (.ok "H") ∧ programs "bob" = .done (.ok "H") ∧
    Books repeatingFaucet id (fun _ => repeatedTransfer) trace programs s := by
  obtain ⟨trace, programs, run, alice, bob, -, -⟩ := repeating_turns
  have proper : Timestamp.Proper ⟨2024, 1, 2, 3, 4, 5, 0⟩ := ⟨by decide, by decide⟩
  obtain ⟨opens, -⟩ := turns_of_world (fun _ => proper) run
  exact ⟨trace, programs, _, opens, alice, bob,
    books_of_turns repeatingFaucet id (fun _ => repeatedTransfer) opens⟩

end Repeating

end TokenFaucet.Faucet
