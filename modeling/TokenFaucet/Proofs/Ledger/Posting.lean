import TokenFaucet.Proofs.Dialogue.Turns
import TokenFaucet.Proofs.Ledger.Readable

set_option autoImplicit false

namespace TokenFaucet.Ledger

open Dialogue (Turns)
open Number (Binary64)
open Store (added)

/-- An operation that writes a row. -/
inductive Write where
  | create (r : Record)
  | increment (k : Key) (delta : Number.Binary64)
  | credit (c : Call)

/-- The steps of an operation; the result is the row as it was written. -/
def Write.program : Write → Session (Except Error Record)
  | .create r => .ask (.create r) fun created => .done (created.map fun _ => r)
  | .increment k delta => .ask (.increment k delta) .done
  | .credit c => c.program

/-- The rows that are created for the first time are dated; other rows are dated by the ledger. -/
def Write.Dated : Write → Prop
  | .create r => r.Dated
  | .increment _ _ => True
  | .credit _ => True

/-- What a clock tells. -/
def Told : (q : Query) → q.Answer → Prop
  | .now, now => now.Proper
  | .get _, _ => True
  | .list _, _ => True
  | .create _, _ => True
  | .increment _ _, _ => True

theorem Ticks.told {q : Query} {a : q.Answer} {s s' : Store} (ticks : Ticks q s a s') : Told q a := by
  obtain ⟨now, proper, answered⟩ := ticks
  cases q with
  | now =>
      obtain ⟨rfl, rfl⟩ := Prod.mk.inj answered
      exact proper
  | get f => trivial
  | list f => trivial
  | create r => trivial
  | increment k delta => trivial

/-- A program that ends well as soon as it has written its row, and not before. -/
inductive Posting : Session (Except Error Record) → Prop where
  | failed (e : Error) : Posting (.done (.error e))
  | ask {q : Query} {next : q.Answer → Session (Except Error Record)}
      (dated : ∀ r, q = .create r → r.Dated)
      (wrote : ∀ a row, written? ⟨q, a⟩ = some row → next a = .done (.ok row))
      (onward : ∀ a, Told q a → written? ⟨q, a⟩ = none → Posting (next a)) : Posting (.ask q next)

theorem posting_increment (k : Key) (delta : Number.Binary64) :
    Posting (.ask (.increment k delta) .done) := by
  refine .ask (fun r same => nomatch same) ?_ ?_
  · rintro (e | row) _ ⟨⟩
    rfl
  · rintro (e | row) - nothing
    · exact .failed e
    · cases nothing

theorem posting_credit (c : Call) : Posting c.program := by
  refine .ask (fun r same => nomatch same) (fun _ _ wrote => nomatch wrote) ?_
  rintro (e | _ | row) - -
  · exact .failed e
  · refine .ask (fun r same => nomatch same) (fun _ _ wrote => nomatch wrote) ?_
    intro now proper _
    refine .ask ?_ ?_ ?_
    · rintro r ⟨⟩
      exact ⟨proper, proper⟩
    · rintro (e | _) row ⟨⟩
      rfl
    · rintro (e | _) - nothing
      · cases e with
        | duplicate => exact posting_increment c.key c.delta
        | notFound => exact .failed .notFound
        | storage why => exact .failed (.storage why)
        | unreadable why => exact .failed (.unreadable why)
      · cases nothing
  · exact posting_increment c.key c.delta

theorem posting_program {w : Write} (dated : w.Dated) : Posting w.program := by
  cases w with
  | create r =>
      refine .ask ?_ ?_ ?_
      · rintro _ ⟨⟩
        exact dated
      · rintro (e | _) row ⟨⟩
        rfl
      · rintro (e | _) - nothing
        · exact .failed e
        · cases nothing
  | increment k delta => exact posting_increment k delta
  | credit c => exact posting_credit c

section Run

variable {ι : Type}

/-- What holds after every turn. -/
structure Recorded (trace : List (ι × Turn)) (programs : ι → Session (Except Error Record))
    (s : Store) : Prop where
  posting : ∀ i, Posting (programs i) ∨ ∃ row, programs i = .done (.ok row)
  results : ∀ row, (∃ i, programs i = .done (.ok row)) ↔
    ∃ taken ∈ trace, written? taken.2 = some row
  holds : s.Holds Record.Dated
  sound : (∀ taken ∈ trace, ∀ row, written? taken.2 = some row → row.amount.isFinite = true) → s.Sound
  /-- A row without a finite amount stays where it is. -/
  spoiled : ∀ taken ∈ trace, ∀ row, written? taken.2 = some row → row.amount.isFinite = false →
    ∃ k r, s.text? k = some (Record.text r) ∧ r.amount.isFinite = false

theorem Recorded.start {writes : ι → Write} (dated : ∀ i, (writes i).Dated) :
    Recorded [] (fun i => (writes i).program) Store.empty where
  posting := fun i => .inl (posting_program (dated i))
  results := by
    intro row
    constructor
    · rintro ⟨i, ended⟩
      have posting := posting_program (dated i)
      rw [ended] at posting
      cases posting
    · rintro ⟨taken, mem, -⟩
      cases mem
  holds := Store.holds_empty _
  sound := fun _ => Store.sound_empty
  spoiled := fun _ mem => nomatch mem

section Turn

variable [DecidableEq ι] {trace : List (ι × Turn)} {programs : ι → Session (Except Error Record)} {s s' : Store}
  {i : ι} {q : Query} {next : q.Answer → Session (Except Error Record)} {a : q.Answer}

/-- The results after a turn of a program that had not ended. -/
theorem results_update (asks : programs i = .ask q next)
    (results : ∀ row, (∃ i, programs i = .done (.ok row)) ↔
      ∃ taken ∈ trace, written? taken.2 = some row)
    (told : ∀ row, next a = .done (.ok row) ↔ written? ⟨q, a⟩ = some row) (row : Record) :
    (∃ j, Function.update programs i (next a) j = .done (.ok row)) ↔
      ∃ taken ∈ trace ++ [(i, ⟨q, a⟩)], written? taken.2 = some row := by
  simp only [List.mem_append, List.mem_singleton]
  constructor
  · rintro ⟨j, ended⟩
    by_cases own : j = i
    · subst own
      rw [Function.update_self] at ended
      exact ⟨_, .inr rfl, (told row).1 ended⟩
    · rw [Function.update_of_ne own] at ended
      obtain ⟨taken, mem, wrote⟩ := (results row).1 ⟨j, ended⟩
      exact ⟨taken, .inl mem, wrote⟩
  · rintro ⟨taken, earlier | rfl, wrote⟩
    · obtain ⟨j, ended⟩ := (results row).2 ⟨taken, earlier, wrote⟩
      have other : j ≠ i := by
        rintro rfl
        rw [asks] at ended
        cases ended
      exact ⟨j, by rw [Function.update_of_ne other, ended]⟩
    · exact ⟨i, by rw [Function.update_self]; exact (told row).2 wrote⟩

theorem Recorded.turn (recorded : Recorded trace programs s) (asks : programs i = .ask q next)
    (ticks : Ticks q s a s') :
    Recorded (trace ++ [(i, ⟨q, a⟩)]) (Function.update programs i (next a)) s' := by
  have posting : Posting (.ask q next) := by
    obtain posting | ⟨row, ended⟩ := recorded.posting i
    · rwa [asks] at posting
    · rw [asks] at ended
      cases ended
  cases posting with
  | ask dated wrote onward =>
  have told (row : Record) : next a = .done (.ok row) ↔ written? ⟨q, a⟩ = some row := by
    refine ⟨fun ended => ?_, wrote a row⟩
    cases nothing : written? ⟨q, a⟩ with
    | some row' =>
        rw [wrote a row' nothing] at ended
        cases ended
        rfl
    | none =>
        have failed := onward a ticks.told nothing
        rw [ended] at failed
        cases failed
  have posted (j : ι) : Posting (Function.update programs i (next a) j) ∨
      ∃ row, Function.update programs i (next a) j = .done (.ok row) := by
    by_cases own : j = i
    · subst own
      rw [Function.update_self]
      cases nothing : written? ⟨q, a⟩ with
      | some row => exact .inr ⟨row, wrote a row nothing⟩
      | none => exact .inl (onward a ticks.told nothing)
    · rw [Function.update_of_ne own]
      exact recorded.posting j
  have results := results_update asks recorded.results told
  obtain ⟨nothing, rfl⟩ | ⟨row, wrote, datedRow, rfl, replaced⟩ := recorded.holds.ticks dated ticks
  · have others {taken : ι × Turn} {row : Record} (mem : taken ∈ trace ++ [(i, ⟨q, a⟩)])
        (wrote : written? taken.2 = some row) : taken ∈ trace := by
      rcases List.mem_append.1 mem with earlier | last
      · exact earlier
      · rw [List.mem_singleton.1 last, nothing] at wrote
        cases wrote
    refine ⟨posted, results, recorded.holds, fun finite => recorded.sound fun taken mem =>
      finite taken (List.mem_append_left _ mem), fun taken mem row wrote infinite => ?_⟩
    exact recorded.spoiled taken (others mem wrote) row wrote infinite
  · refine ⟨posted, results, recorded.holds.write datedRow, ?_, ?_⟩
    · intro finite
      have sound := recorded.sound fun taken mem => finite taken (List.mem_append_left _ mem)
      exact sound.write (datedRow.writable (finite (i, ⟨q, a⟩) (by simp) row wrote))
    · intro taken mem row' wrote' infinite
      rcases List.mem_append.1 mem with earlier | last
      · obtain ⟨k, r, found, spoiled⟩ := recorded.spoiled taken earlier row' wrote' infinite
        refine ⟨k, r, ?_, spoiled⟩
        rw [Store.text?_write]
        by_cases same : k = row.key
        · subst same
          rw [replaced r found] at spoiled
          cases spoiled
        · rw [if_neg same]
          exact found
      · rw [List.mem_singleton.1 last, wrote] at wrote'
        cases wrote'
        exact ⟨row.key, row, Store.text?_write_self .., infinite⟩

end Turn

theorem recorded_of_turns [DecidableEq ι] {writes : ι → Write} {trace : List (ι × Turn)}
    {programs : ι → Session (Except Error Record)} {s : Store} (dated : ∀ i, (writes i).Dated)
    (run : Turns Ticks (fun i => (writes i).program) Store.empty trace programs s) :
    Recorded trace programs s := by
  induction run with
  | start => exact .start dated
  | turn before asks ticks ih => exact ih.turn asks ticks

/-- Operations that write rows, in any order of their turns and with any amounts: if every one of them
that has ended well wrote a finite amount, everything can be read and every row can be added to; if one
wrote another amount, no list of rows can be read, whoever's rows it asks for. -/
theorem readable_iff_finite [DecidableEq ι] {writes : ι → Write} {trace : List (ι × Turn)}
    {programs : ι → Session (Except Error Record)} {s : Store} (dated : ∀ i, (writes i).Dated)
    (run : Turns Ticks (fun i => (writes i).program) Store.empty trace programs s) :
    (s.Readable ↔ ∀ i row, programs i = .done (.ok row) → row.amount.isFinite = true) ∧
      ((∃ i row, programs i = .done (.ok row) ∧ row.amount.isFinite = false) →
        ∀ f, ∃ e, s.list f = .error e) := by
  have recorded := recorded_of_turns dated run
  have unreadable : (∃ i row, programs i = .done (.ok row) ∧ row.amount.isFinite = false) →
      ∀ f, ∃ e, s.list f = .error e := by
    rintro ⟨i, row, ended, infinite⟩ f
    obtain ⟨taken, mem, wrote⟩ := (recorded.results row).1 ⟨i, ended⟩
    obtain ⟨k, r, found, spoiled⟩ := recorded.spoiled taken mem row wrote infinite
    exact Store.list_of_not_finite found spoiled f
  refine ⟨⟨fun readable i row ended => ?_, fun finite => ?_⟩, unreadable⟩
  · cases finite : row.amount.isFinite with
    | true => rfl
    | false =>
        obtain ⟨e, refused⟩ := unreadable ⟨i, row, ended, finite⟩ .any
        obtain ⟨rows, read⟩ := readable.list .any
        rw [refused] at read
        cases read
  · apply Store.Sound.readable
    apply recorded.sound
    intro taken mem row wrote
    obtain ⟨i, ended⟩ := (recorded.results row).2 ⟨taken, mem, wrote⟩
    exact finite i row ended

end Run

section InAnyWorld

variable {ι σ : Type} [DecidableEq ι] {allows : (q : Query) → σ → q.Answer → σ → Prop}
  {start programs : ι → Session (Except Error Record)} {trace : List (ι × Turn)} {w w₁ w₂ w₃ w₄ : σ}
  {i : ι} {c : Call}

/-- A credit that takes its turns at once and creates its row. -/
theorem turns_creates {now : Timestamp} (before : Turns allows start w trace programs w₁)
    (asks : programs i = c.program) (got : allows (.get (.ofKey c.key)) w₁ (.ok none) w₂)
    (told : allows .now w₂ now w₃)
    (created : allows (.create (Record.ofKey c.key c.delta now)) w₃ (.ok ()) w₄) :
    Turns allows start w
      (trace ++ [(i, ⟨.get (.ofKey c.key), .ok none⟩), (i, ⟨.now, now⟩),
        (i, ⟨.create (Record.ofKey c.key c.delta now), .ok ()⟩)])
      (Function.update programs i (.done (.ok (Record.ofKey c.key c.delta now)))) w₄ := by
  have first := (before.turn asks got).turn (Function.update_self ..) told
  have second := first.turn (Function.update_self ..) created
  rw [Function.update_idem, Function.update_idem, List.append_assoc, List.append_assoc] at second
  exact second

/-- A credit that takes its turns at once and adds to a row. -/
theorem turns_adds {found row : Record} (before : Turns allows start w trace programs w₁)
    (asks : programs i = c.program) (got : allows (.get (.ofKey c.key)) w₁ (.ok (some found)) w₂)
    (incremented : allows (.increment c.key c.delta) w₂ (.ok row) w₃) :
    Turns allows start w
      (trace ++ [(i, ⟨.get (.ofKey c.key), .ok (some found)⟩),
        (i, ⟨.increment c.key c.delta, .ok row⟩)])
      (Function.update programs i (.done (.ok row))) w₃ := by
  have both := (before.turn asks got).turn (Function.update_self ..) incremented
  have same := Function.update_idem (a := i) (.ask (.increment c.key c.delta) .done)
    (.done (.ok row)) programs
  rw [List.append_assoc] at both
  exact same ▸ both

end InAnyWorld

section Credit

variable {ι : Type} [DecidableEq ι] {start programs : ι → Session (Except Error Record)}
  {trace : List (ι × Turn)} {s s' : Store} {i : ι} {c : Call} {now : Timestamp}

/-- A credit that takes its turns at once and finds no row. -/
theorem turns_create (before : Turns Ticks start s trace programs s') (asks : programs i = c.program)
    (proper : now.Proper) (absent : s'.text? c.key = none) :
    Turns Ticks start s
      (trace ++ [(i, ⟨.get (.ofKey c.key), .ok none⟩), (i, ⟨.now, now⟩),
        (i, ⟨.create (Record.ofKey c.key c.delta now), .ok ()⟩)])
      (Function.update programs i (.done (.ok (Record.ofKey c.key c.delta now))))
      (s'.write c.key (Record.ofKey c.key c.delta now)) := by
  have got : Ticks (.get (.ofKey c.key)) s' (.ok none) s' :=
    ⟨now, proper, congrArg (·, s') (Store.find_of_none absent)⟩
  have told : Ticks .now s' now s' := ⟨now, proper, rfl⟩
  have created : Ticks (.create (Record.ofKey c.key c.delta now)) s' (.ok ())
      (s'.write c.key (Record.ofKey c.key c.delta now)) :=
    ⟨now, proper, Store.create_of_none (r := Record.ofKey c.key c.delta now) absent⟩
  exact turns_creates before asks got told created

/-- A credit that takes its turns at once and finds a row. -/
theorem turns_add {r : Record} (before : Turns Ticks start s trace programs s')
    (asks : programs i = c.program) (proper : now.Proper) (writable : r.Writable)
    (found : s'.text? c.key = some r.text) :
    Turns Ticks start s
      (trace ++ [(i, ⟨.get (.ofKey c.key), .ok (some r.reread)⟩),
        (i, ⟨.increment c.key c.delta, .ok (added r c.delta now)⟩)])
      (Function.update programs i (.done (.ok (added r c.delta now))))
      (s'.write c.key (added r c.delta now)) := by
  have got : Ticks (.get (.ofKey c.key)) s' (.ok (some r.reread)) s' :=
    ⟨now, proper, congrArg (·, s') (Store.find_of_some writable found)⟩
  have incremented : Ticks (.increment c.key c.delta) s' (.ok (added r c.delta now))
      (s'.write c.key (added r c.delta now)) :=
    ⟨now, proper, Store.increment_of_some writable found c.delta now⟩
  exact turns_adds before asks got incremented

end Credit

section Overflow

/-- Half of what is beyond all finite numbers. -/
def huge : Binary64 := ⟨0x7fe1ccf385ebc8a0⟩

theorem huge_isFinite : huge.isFinite = true := by decide

theorem huge_twice : ((Json.NumberText.reread huge).add huge).isFinite = false := by decide +kernel

theorem amount_added_ofKey (k : Key) (first second : Binary64) (now : Timestamp) :
    (added (Record.ofKey k first now) second now).amount =
      (Json.NumberText.reread first).add second := rfl

theorem isFinite_added_huge (k : Key) (now : Timestamp) :
    (added (Record.ofKey k huge now) huge now).amount.isFinite = false := by
  rw [amount_added_ofKey]
  exact huge_twice

/-- Two payments to one key, one after the other, whose sum is not finite. -/
def overflow (k : Key) (now : Timestamp) : List (Bool × Turn) :=
  [(false, ⟨.get (.ofKey k), .ok none⟩), (false, ⟨.now, now⟩),
    (false, ⟨.create (Record.ofKey k huge now), .ok ()⟩),
    (true, ⟨.get (.ofKey k), .ok (some (Record.ofKey k huge now).reread)⟩),
    (true, ⟨.increment k huge, .ok (added (Record.ofKey k huge now) huge now)⟩)]

theorem turns_overflow (k : Key) {now : Timestamp} (proper : now.Proper) :
    ∃ programs s, Turns Ticks (fun _ => (Write.credit ⟨k, huge⟩).program) Store.empty (overflow k now)
        programs s ∧ programs true = .done (.ok (added (Record.ofKey k huge now) huge now)) := by
  have writable : (Record.ofKey k huge now).Writable := ⟨huge_isFinite, proper, proper⟩
  have idle : Turns Ticks (fun _ : Bool => (Write.credit ⟨k, huge⟩).program) Store.empty []
    (fun _ => (Write.credit ⟨k, huge⟩).program) Store.empty := .start
  have first := turns_create (i := false) (c := ⟨k, huge⟩) idle rfl proper rfl
  have second := turns_add (i := true) (c := ⟨k, huge⟩) first rfl proper writable
    (Store.text?_write_self ..)
  exact ⟨_, _, second, Function.update_self ..⟩

/-- Two payments that both end well leave a ledger of which nothing can be read. -/
theorem readable_iff_finite_overflow :
    ∃ (k : Key) (now : Timestamp) (programs : Bool → Session (Except Error Record)) (s : Store),
      (∀ _ : Bool, (Write.credit ⟨k, huge⟩).Dated) ∧
        Turns Ticks (fun _ => (Write.credit ⟨k, huge⟩).program) Store.empty (overflow k now) programs
          s ∧
        ¬ s.Readable ∧ ∀ f, ∃ e, s.list f = .error e := by
  let k : Key := ⟨"alice", "sepolia", .evm, ""⟩
  let now : Timestamp := ⟨2024, 1, 2, 3, 4, 5, 0⟩
  have proper : now.Proper := ⟨by decide, by decide⟩
  obtain ⟨programs, s, run, ended⟩ := turns_overflow k proper
  have dated : ∀ _ : Bool, (Write.credit ⟨k, huge⟩).Dated := fun _ => trivial
  obtain ⟨readable, unreadable⟩ := readable_iff_finite dated run
  refine ⟨k, now, programs, s, dated, run, fun all => ?_,
    unreadable ⟨true, _, ended, isFinite_added_huge k now⟩⟩
  have finite := readable.1 all true _ ended
  rw [isFinite_added_huge] at finite
  cases finite

/-- After two finite payments to one user, both of which end well, no other user's rows can be
listed. -/
theorem list_fails_after_overflow :
    ∃ (k : Key) (now : Timestamp) (desk₁ desk₂ : Desk) (row₁ row₂ : Record),
      k.userId = "alice" ∧ now.Proper ∧ huge.isFinite = true ∧
        (credit k huge).run Desk.answer ⟨Store.empty, fun _ => now⟩ = (.ok row₁, desk₁) ∧
        (credit k huge).run Desk.answer desk₁ = (.ok row₂, desk₂) ∧
        ∃ e, desk₂.store.list (Filter.any.byUser "bob") = .error e := by
  let k : Key := ⟨"alice", "sepolia", .evm, ""⟩
  let now : Timestamp := ⟨2024, 1, 2, 3, 4, 5, 0⟩
  have proper : now.Proper := ⟨by decide, by decide⟩
  have writable : (Record.ofKey k huge now).Writable := ⟨huge_isFinite, proper, proper⟩
  have first := @run_credit_of_none ⟨Store.empty, fun _ => now⟩ k huge rfl
  have second := @run_credit_of_some
    ⟨Store.empty.write k (Record.ofKey k huge now), fun _ => now⟩ k huge _ writable
    (Store.text?_write_self ..)
  exact ⟨k, now, _, _, _, _, rfl, proper, huge_isFinite, first, second,
    Store.list_of_not_finite (Store.text?_write_self ..) (isFinite_added_huge k now) _⟩

end Overflow

end TokenFaucet.Ledger
