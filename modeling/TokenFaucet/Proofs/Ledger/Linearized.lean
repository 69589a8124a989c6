import Mathlib.Data.List.Nodup
import TokenFaucet.Proofs.Dialogue.Turns
import TokenFaucet.Proofs.Ledger.Crediting

set_option autoImplicit false

namespace TokenFaucet.Ledger

open Dialogue (Turns turnsOf)
open Number (Binary64)
open Store (Alike added)

variable {ι : Type}

/-- Who wrote a row, in order. -/
def writers (trace : List (ι × Turn)) : List ι :=
  trace.filterMap fun taken => (written? taken.2).map fun _ => taken.1

theorem writers_snoc_of_none (trace : List (ι × Turn)) (i : ι) {turn : Turn}
    (nothing : written? turn = none) : writers (trace ++ [(i, turn)]) = writers trace := by
  simp [writers, List.filterMap_append, nothing]

theorem writers_snoc_of_some (trace : List (ι × Turn)) (i : ι) {turn : Turn} {row : Record}
    (wrote : written? turn = some row) : writers (trace ++ [(i, turn)]) = writers trace ++ [i] := by
  simp [writers, List.filterMap_append, wrote]

/-- Every sum in a run is finite: no row was written with another amount. -/
def SumsFinite (trace : List (ι × Turn)) : Prop :=
  ∀ taken ∈ trace, ∀ row, written? taken.2 = some row → row.amount.isFinite = true

/-- Runs credits one after another: what they end with, and the ledger afterwards. -/
def inOrder (calls : ι → Call) : List ι → Desk → List (Except Error Record) × Desk
  | [], desk => ([], desk)
  | i :: rest, desk =>
    let (r, desk) := (calls i).program.run Desk.answer desk
    let (others, desk) := inOrder calls rest desk
    (r :: others, desk)

theorem inOrder_cons (calls : ι → Call) (i : ι) (rest : List ι) (desk : Desk) :
    inOrder calls (i :: rest) desk =
      (((calls i).program.run Desk.answer desk).1 ::
          (inOrder calls rest ((calls i).program.run Desk.answer desk).2).1,
        (inOrder calls rest ((calls i).program.run Desk.answer desk).2).2) := rfl

theorem inOrder_snoc (calls : ι → Call) (order : List ι) (i : ι) (desk : Desk) :
    inOrder calls (order ++ [i]) desk =
      ((inOrder calls order desk).1 ++
          [((calls i).program.run Desk.answer (inOrder calls order desk).2).1],
        ((calls i).program.run Desk.answer (inOrder calls order desk).2).2) := by
  induction order generalizing desk with
  | nil => rfl
  | cons j rest ih =>
      rw [List.cons_append, inOrder_cons, inOrder_cons, ih]
      rfl

/-- A call has ended with that result, but for the moments in it. -/
def SameResult (programs : ι → Session (Except Error Record)) (i : ι) (r : Except Error Record) :
    Prop :=
  ∃ row row', programs i = .done (.ok row) ∧ r = .ok row' ∧ row.paid = row'.paid

/-- The calls in that order have the results that they have ended with, and lead to the same ledger. -/
structure Accords (calls : ι → Call) (programs : ι → Session (Except Error Record)) (s : Store)
    (order : List ι) (desk : Desk) : Prop where
  alike : Alike s (inOrder calls order desk).2.store
  proper : ∀ n, ((inOrder calls order desk).2.clock n).Proper
  results : List.Forall₂ (SameResult programs) order (inOrder calls order desk).1

/-- What a key holds after the credits to it among some, one after another: each delta is added once, to
what is read of the sum before. -/
def accrued (calls : ι → Call) (k : Key) (order : List ι) (held : Option Binary64) : Option Binary64 :=
  (order.filter fun i => (calls i).key = k).foldl
    (fun held i => some (Json.NumberText.reread (summed held (calls i).delta))) held

theorem accrued_snoc (calls : ι → Call) (k : Key) (order : List ι) (i : ι) (held : Option Binary64) :
    accrued calls k (order ++ [i]) held =
      if (calls i).key = k then
        some (Json.NumberText.reread (summed (accrued calls k order held) (calls i).delta))
      else accrued calls k order held := by
  unfold accrued
  by_cases own : (calls i).key = k
  · simp [own, List.filter_append, List.foldl_append]
  · simp [own, List.filter_append]

/-- A call that has ended well. -/
def Succeeded (program : Session (Except Error Record)) : Prop :=
  ∃ row, program = .done (.ok row)

/-- What holds after every turn. -/
structure Orderly (calls : ι → Call) (start : Store) (trace : List (ι × Turn))
    (programs : ι → Session (Except Error Record)) (s : Store) : Prop where
  sound : s.Sound
  once : (writers trace).Nodup
  pending : ∀ i, i ∉ writers trace → Pending (calls i) s (programs i)
  ended : ∀ i ∈ writers trace, Succeeded (programs i)
  written : ∀ i ∈ writers trace,
    ∃ r : Record, r.Writable ∧ r.key = (calls i).key ∧ s.text? (calls i).key = some r.text
  amounts : ∀ k, s.held k = accrued calls k (writers trace) (start.held k)
  accords : ∀ desk : Desk, desk.store = start → (∀ n, (desk.clock n).Proper) →
    Accords calls programs s (writers trace) desk

theorem Orderly.start {calls : ι → Call} {s : Store} (sound : s.Sound) :
    Orderly calls s [] (fun i => (calls i).program) s where
  sound := sound
  once := List.nodup_nil
  pending := fun _ _ => .start
  ended := fun _ mem => nomatch mem
  written := fun _ mem => nomatch mem
  amounts := fun _ => rfl
  accords := by
    rintro desk rfl proper
    exact ⟨sound.alike, proper, .nil⟩

section Turn

variable [DecidableEq ι] {calls : ι → Call} {start s s' : Store} {trace : List (ι × Turn)}
  {programs : ι → Session (Except Error Record)} {i : ι}

theorem sameResult_update {order : List ι} {rs : List (Except Error Record)}
    (results : List.Forall₂ (SameResult programs) order rs) (new : i ∉ order)
    (program : Session (Except Error Record)) :
    List.Forall₂ (SameResult (Function.update programs i program)) order rs := by
  induction results with
  | nil => exact .nil
  | @cons j r rest rs same others ih =>
      rw [List.mem_cons, not_or] at new
      refine .cons ?_ (ih new.2)
      obtain ⟨row, row', ended, ended', paid⟩ := same
      refine ⟨row, row', ?_, ended', paid⟩
      rw [Function.update_of_ne (Ne.symm new.1)]
      exact ended

/-- A call that writes nothing. -/
theorem Orderly.turn_of_next (orderly : Orderly calls start trace programs s)
    (new : i ∉ writers trace) {turn : Turn} (nothing : written? turn = none)
    {program : Session (Except Error Record)} (pending : Pending (calls i) s program) :
    Orderly calls start (trace ++ [(i, turn)]) (Function.update programs i program) s := by
  have same := writers_snoc_of_none trace i nothing
  refine ⟨orderly.sound, ?_, ?_, ?_, ?_, ?_, ?_⟩ <;> rw [same]
  · exact orderly.once
  · intro j waits
    by_cases own : j = i
    · subst own
      rw [Function.update_self]
      exact pending
    · rw [Function.update_of_ne own]
      exact orderly.pending j waits
  · exact Dialogue.forall_update orderly.ended new program
  · exact orderly.written
  · exact orderly.amounts
  · intro desk begins proper
    obtain ⟨alike, later, results⟩ := orderly.accords desk begins proper
    exact ⟨alike, later, sameResult_update results new program⟩

/-- A call that writes its row. -/
theorem Orderly.turn_of_last (orderly : Orderly calls start trace programs s)
    (new : i ∉ writers trace) {turn : Turn} {row : Record} (wrote : written? turn = some row)
    (writable : row.Writable) (key : row.key = (calls i).key)
    (alone : Alone (calls i) s row) :
    Orderly calls start (trace ++ [(i, turn)]) (Function.update programs i (.done (.ok row)))
      (s.write row.key row) := by
  have one_more := writers_snoc_of_some trace i wrote
  refine ⟨orderly.sound.write writable, ?_, ?_, ?_, ?_, ?_, ?_⟩ <;> rw [one_more]
  · rw [← List.concat_eq_append]
    exact List.Nodup.concat new orderly.once
  · intro j waits
    rw [List.mem_append, List.mem_singleton, not_or] at waits
    rw [Function.update_of_ne waits.2]
    exact (orderly.pending j waits.1).write writable
  · intro j mem
    rcases List.mem_append.1 mem with earlier | own
    · exact Dialogue.forall_update orderly.ended new _ j earlier
    · rw [List.mem_singleton.1 own, Function.update_self]
      exact ⟨row, rfl⟩
  · intro j mem
    rw [Store.text?_write]
    by_cases same : (calls j).key = row.key
    · rw [if_pos same]
      exact ⟨row, writable, same.symm, rfl⟩
    · rw [if_neg same]
      rcases List.mem_append.1 mem with earlier | own
      · exact orderly.written j earlier
      · rw [List.mem_singleton.1 own] at same
        exact absurd key.symm same
  · intro k
    rw [accrued_snoc, ← orderly.amounts k]
    by_cases own : (calls i).key = k
    · rw [if_pos own, ← own, key, Store.held_write_self writable,
        ← alone.amount_eq orderly.sound writable]
      rfl
    · rw [if_neg own, key, Store.held_write_of_ne (Ne.symm own)]
  · intro desk begins proper
    obtain ⟨alike, later, results⟩ := orderly.accords desk begins proper
    obtain ⟨row', clock, writable', paid, proper', ran⟩ := alone _ alike later writable.amount
    have keys : row'.key = (calls i).key := (Prod.mk.inj paid).1.symm.trans key
    have grown := alike.write writable writable' paid
    rw [keys] at grown
    refine ⟨?_, ?_, ?_⟩ <;> rw [inOrder_snoc, ran]
    · exact grown
    · exact proper'
    · refine List.rel_append (sameResult_update results new _) (.cons ?_ .nil)
      exact ⟨row, row', Function.update_self .., rfl, paid⟩

theorem Orderly.turn (orderly : Orderly calls start trace programs s) {q : Query}
    {next : q.Answer → Session (Except Error Record)} {r : q.Answer}
    (asks : programs i = .ask q next) (ticks : Ticks q s r s')
    (finite : ∀ row, written? ⟨q, r⟩ = some row → row.amount.isFinite = true) :
    Orderly calls start (trace ++ [(i, ⟨q, r⟩)]) (Function.update programs i (next r)) s' := by
  have new : i ∉ writers trace := by
    intro mem
    obtain ⟨row, ended⟩ := orderly.ended i mem
    rw [ended] at asks
    cases asks
  cases (orderly.pending i new).step orderly.sound asks ticks with
  | next nothing pending same =>
      subst same
      exact orderly.turn_of_next new nothing pending
  | @last row wrote ended key moments grown alone =>
      rw [ended, grown, ← key]
      exact orderly.turn_of_last new wrote ⟨finite row wrote, moments.1, moments.2⟩ key alone

end Turn

theorem orderly_of_turns [DecidableEq ι] {calls : ι → Call} {start s : Store} (sound : start.Sound)
    {trace : List (ι × Turn)} {programs : ι → Session (Except Error Record)}
    (run : Turns Ticks (fun i => (calls i).program) start trace programs s)
    (finite : SumsFinite trace) : Orderly calls start trace programs s := by
  induction run with
  | start => exact .start sound
  | @turn trace programs s i q next r s' before asks ticks ih =>
      have earlier := ih fun taken mem => finite taken (List.mem_append_left _ mem)
      exact earlier.turn asks ticks (finite (i, ⟨q, r⟩) (by simp))

/-- A credit asks four questions at most. -/
theorem brief_credit (k : Key) (delta : Binary64) : Dialogue.Brief 4 (credit k delta) := by
  intro found
  dsimp only
  split
  · exact Dialogue.brief_done 3 _
  · intro added
    exact Dialogue.brief_done 2 _
  · intro now created
    dsimp only
    split
    · exact Dialogue.brief_done 1 _
    · intro added
      exact Dialogue.brief_done 0 _
    · exact Dialogue.brief_done 1 _

/-- A run of credits, with the outcome that the credits have one after another. -/
structure Linearized [DecidableEq ι] (calls : ι → Call) (start : Store) (trace : List (ι × Turn))
    (programs : ι → Session (Except Error Record)) (s : Store) : Prop where
  brief : ∀ i, (turnsOf i trace).length ≤ 4
  succeeded : ∀ i r, programs i = .done r → ∃ row, r = .ok row
  /-- The calls that have ended are those that have written a row, each of them once. -/
  ended : ∀ i, (∃ r, programs i = .done r) ↔ i ∈ writers trace
  once : (writers trace).Nodup
  /-- No key has two rows, and a key that was credited has one. -/
  single : ∀ k, s.list (.ofKey k) = .ok [] ∨ ∃ row, row.key = k ∧ s.list (.ofKey k) = .ok [row]
  credited : ∀ i ∈ writers trace, s.list (.ofKey (calls i).key) ≠ .ok []
  /-- A key holds what it held and the deltas of the calls to it that have ended, each added once. -/
  amounts : ∀ k, s.held k = accrued calls k (writers trace) (start.held k)
  /-- The ledger is the one that the calls lead to one after another, whatever moments a clock tells
  them, but for the moments; so are the results. -/
  ledger : ∀ desk : Desk, desk.store = start → (∀ n, (desk.clock n).Proper) →
    s.untimed = (inOrder calls (writers trace) desk).2.store.untimed
  results : ∀ desk : Desk, desk.store = start → (∀ n, (desk.clock n).Proper) →
    List.Forall₂ (SameResult programs) (writers trace) (inOrder calls (writers trace) desk).1

theorem Orderly.ended_iff {calls : ι → Call} {start s : Store} {trace : List (ι × Turn)}
    {programs : ι → Session (Except Error Record)} (orderly : Orderly calls start trace programs s)
    (i : ι) : (∃ r, programs i = .done r) ↔ i ∈ writers trace := by
  constructor
  · rintro ⟨r, done⟩
    by_contra waits
    exact (orderly.pending i waits).not_done done
  · intro mem
    obtain ⟨row, done⟩ := orderly.ended i mem
    exact ⟨.ok row, done⟩

/-- However the turns of credits are ordered, no credit fails, and the ledger and the results are
those of the credits one after another, in the order in which they write their rows. -/
theorem credit_linearized [DecidableEq ι] {calls : ι → Call} {start s : Store}
    {trace : List (ι × Turn)} {programs : ι → Session (Except Error Record)}
    (reachable : Store.Reachable start)
    (run : Turns Ticks (fun i => (calls i).program) start trace programs s)
    (finite : SumsFinite trace) : Linearized calls start trace programs s := by
  have orderly := orderly_of_turns reachable.sound run finite
  refine ⟨?_, ?_, orderly.ended_iff, orderly.once, ?_, ?_, orderly.amounts, ?_, ?_⟩
  · intro i
    exact (run.leads i).length_le (brief_credit _ _)
  · intro i r done
    obtain ⟨row, well⟩ := orderly.ended i ((orderly.ended_iff i).1 ⟨r, done⟩)
    rw [done] at well
    exact ⟨row, Dialogue.done.inj well⟩
  · intro k
    obtain absent | ⟨r, writable, key, found⟩ := orderly.sound.text?_cases k
    · exact .inl (orderly.sound.list_of_none absent)
    · exact .inr ⟨r.reread, key, orderly.sound.list_of_some writable found⟩
  · intro i mem nothing
    obtain ⟨r, writable, -, found⟩ := orderly.written i mem
    rw [orderly.sound.list_of_some writable found] at nothing
    cases nothing
  · intro desk begins proper
    exact (orderly.accords desk begins proper).alike.untimed_eq
  · intro desk begins proper
    exact (orderly.accords desk begins proper).results

section Race

/-- Two first payments to one key, each of which finds no row: the later of the two to create it is
told that it is there, and adds to it. -/
def race (k : Key) (delta : Binary64) (now : Timestamp) : List (Fin 2 × Turn) :=
  [(0, ⟨.get (.ofKey k), .ok none⟩), (1, ⟨.get (.ofKey k), .ok none⟩), (0, ⟨.now, now⟩),
    (1, ⟨.now, now⟩), (1, ⟨.create (Record.ofKey k delta now), .ok ()⟩),
    (0, ⟨.create (Record.ofKey k delta now), .error .duplicate⟩),
    (0, ⟨.increment k delta, .ok (added (Record.ofKey k delta now) delta now)⟩)]

theorem sumsFinite_race (k : Key) {delta : Binary64} (now : Timestamp)
    (finite : delta.isFinite = true)
    (sum : ((Json.NumberText.reread delta).add delta).isFinite = true) :
    SumsFinite (race k delta now) := by
  intro taken mem row wrote
  simp only [race, List.mem_cons, List.not_mem_nil, or_false] at mem
  rcases mem with rfl | rfl | rfl | rfl | rfl | rfl | rfl <;> cases wrote
  · exact finite
  · exact sum

theorem turns_race (k : Key) {delta : Binary64} {now : Timestamp} (proper : now.Proper)
    (finite : delta.isFinite = true) :
    ∃ programs s, Turns Ticks (fun _ => (Call.mk k delta).program) Store.empty (race k delta now)
      programs s := by
  have absent : Store.empty.text? k = none := rfl
  have writable : (Record.ofKey k delta now).Writable := ⟨finite, proper, proper⟩
  have found : (Store.empty.write k (Record.ofKey k delta now)).text? k =
      some (Record.ofKey k delta now).text := by
    rw [Store.text?_write, if_pos rfl]
  have got : Ticks (.get (.ofKey k)) Store.empty (.ok none) Store.empty :=
    ⟨now, proper, congrArg (·, Store.empty) (Store.find_of_none absent)⟩
  have told : Ticks .now Store.empty now Store.empty := ⟨now, proper, rfl⟩
  have created : Ticks (.create (Record.ofKey k delta now)) Store.empty (.ok ())
      (Store.empty.write k (Record.ofKey k delta now)) :=
    ⟨now, proper, Store.create_of_none (r := Record.ofKey k delta now) absent⟩
  have refused : Ticks (.create (Record.ofKey k delta now))
      (Store.empty.write k (Record.ofKey k delta now)) (.error .duplicate)
      (Store.empty.write k (Record.ofKey k delta now)) :=
    ⟨now, proper, Store.create_of_some (r := Record.ofKey k delta now) found⟩
  have incremented := Store.increment_of_some writable found delta now
  have idle : Turns Ticks (fun _ : Fin 2 => (Call.mk k delta).program) Store.empty []
    (fun _ => (Call.mk k delta).program) Store.empty := .start
  have first := (idle.turn (i := 0) rfl got).turn (i := 1) rfl got
  have second := (first.turn (i := 0) rfl told).turn (i := 1) rfl told
  have third := (second.turn (i := 1) rfl created).turn (i := 0) rfl refused
  exact ⟨_, _, third.turn (i := 0) rfl ⟨now, proper, incremented⟩⟩

/-- Both payments are kept, although each of them found no row: the key holds two after two ones. -/
theorem credit_linearized_race :
    ∃ (k : Key) (delta : Binary64) (now : Timestamp)
      (programs : Fin 2 → Session (Except Error Record)) (s : Store),
      Store.Reachable Store.empty ∧
        Turns Ticks (fun _ => (Call.mk k delta).program) Store.empty (race k delta now) programs s ∧
        SumsFinite (race k delta now) ∧ writers (race k delta now) = [1, 0] ∧
        Linearized (fun _ => Call.mk k delta) Store.empty (race k delta now) programs s ∧
        delta = Binary64.ofNat 1 ∧ s.held k = some (Binary64.ofNat 2) := by
  let k : Key := ⟨"alice", "sepolia", .evm, ""⟩
  let one := Binary64.ofNat 1
  let now : Timestamp := ⟨2024, 1, 2, 3, 4, 5, 0⟩
  have proper : now.Proper := ⟨by decide, by decide⟩
  have finite : one.isFinite = true := by decide
  have sum : ((Json.NumberText.reread one).add one).isFinite = true ∧
      accrued (fun _ : Fin 2 => Call.mk k one) k [1, 0] none = some (Binary64.ofNat 2) := by
    decide +kernel
  obtain ⟨programs, s, run⟩ := turns_race k proper finite
  have sums := sumsFinite_race k now finite sum.1
  have linearized := credit_linearized .empty run sums
  exact ⟨k, one, now, programs, s, .empty, run, sums, rfl, linearized, rfl,
    (linearized.amounts k).trans sum.2⟩

end Race

end TokenFaucet.Ledger
