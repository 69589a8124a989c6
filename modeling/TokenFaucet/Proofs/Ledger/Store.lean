import TokenFaucet.Proofs.Ledger.Record
import TokenFaucet.Proofs.Table

set_option autoImplicit false

namespace TokenFaucet

namespace Ledger

open Number (Binary64)

/-- A row without its timestamps. -/
def Record.paid (r : Record) : Key × Binary64 :=
  (r.key, r.amount)

namespace Store

/-- A row as it is kept: the text of its key and its own. -/
def rowOf (r : Record) : String × String :=
  (r.key.text, r.text)

/-- A store whose rows are in order and can be read, each under its own key. -/
structure Sound (s : Store) : Prop where
  ordered : s.rows.Pairwise fun x y => x.1 < y.1
  rows : ∀ row ∈ s.rows, ∃ r : Record, r.Writable ∧ row = rowOf r

theorem sound_empty : empty.Sound where
  ordered := List.Pairwise.nil
  rows := fun _ mem => nomatch mem

theorem Sound.write {s : Store} (sound : s.Sound) {r : Record} (writable : r.Writable) :
    (s.write r.key r).Sound where
  ordered := Table.put_ordered sound.ordered
  rows := by
    intro row mem
    obtain own | earlier := Table.mem_put mem
    · exact ⟨r, writable, own⟩
    · exact sound.rows row earlier

/-- The text under a key, after a row was written. -/
theorem text?_write (s : Store) (k k' : Key) (r : Record) :
    (s.write k r).text? k' = if k' = k then some r.text else s.text? k' := by
  have found := Table.find?_put Table.byText_total Table.byText_irrefl k.text k'.text r.text s.rows
  change Table.find? k'.text (Table.put Table.byText k.text r.text s.rows) = _
  rw [found]
  by_cases same : k' = k
  · rw [same, beq_self_eq_true, if_pos rfl, if_pos rfl]
  · have texts : (k'.text == k.text) = false := beq_false_of_ne (mt Key.text_injective same)
    rw [texts, if_neg same]
    rfl

theorem text?_write_self (s : Store) (k : Key) (r : Record) : (s.write k r).text? k = some r.text := by
  rw [text?_write, if_pos rfl]

/-- What a sound store has under a key. -/
theorem Sound.text?_cases {s : Store} (sound : s.Sound) (k : Key) :
    s.text? k = none ∨ ∃ r : Record, r.Writable ∧ r.key = k ∧ s.text? k = some r.text := by
  cases found : s.text? k with
  | none => exact .inl rfl
  | some text =>
      obtain ⟨r, writable, row⟩ := sound.rows _ (Table.mem_of_find? found)
      obtain ⟨key, rfl⟩ := Prod.mk.inj row
      exact .inr ⟨r, writable, (Key.text_injective key).symm, rfl⟩

theorem readAll_cons (f : Filter) (key : String) {text : String} {r : Record}
    (read : Record.parse text = .ok r) (rest : List (String × String)) :
    readAll f ((key, text) :: rest) =
      (readAll f rest).map fun others => if f.accepts r then r :: others else others := by
  rw [readAll, read]
  cases readAll f rest <;> rfl

/-- What is read for a key is the one row that is kept under its text. -/
theorem readAll_ofKey {rows : List (String × String)}
    (ordered : rows.Pairwise fun x y => x.1 < y.1)
    (readable : ∀ row ∈ rows, ∃ r : Record, r.Writable ∧ row = rowOf r) (k : Key) :
    readAll (.ofKey k) rows =
      match Table.find? k.text rows with
      | none => .ok []
      | some text => (Record.parse text).map fun r => [r] := by
  induction rows with
  | nil => rfl
  | cons row rest ih =>
      obtain ⟨least, others⟩ := List.pairwise_cons.1 ordered
      obtain ⟨r, writable, rfl⟩ := readable row (List.mem_cons_self ..)
      have later := ih others fun row mem => readable row (List.mem_cons_of_mem _ mem)
      have read := Record.parse_text writable
      rw [rowOf, readAll_cons _ _ read, later, Table.find?]
      by_cases own : r.key = k
      · have nothing : Table.find? k.text rest = none := by
          cases found : Table.find? k.text rest with
          | none => rfl
          | some text =>
              have less := least _ (Table.mem_of_find? found)
              rw [← own] at less
              exact absurd less (String.lt_irrefl _)
        have accepted : (Filter.ofKey k).accepts r.reread = true :=
          (Filter.accepts_ofKey k r.reread).2 own
        rw [nothing, own, beq_self_eq_true, if_pos rfl]
        simp only [read, accepted, Except.map, if_true]
      · have other : (k.text == r.key.text) = false :=
          beq_false_of_ne fun same => own (Key.text_injective same).symm
        have refused : ¬ (Filter.ofKey k).accepts r.reread = true :=
          mt (Filter.accepts_ofKey k r.reread).1 own
        rw [other, if_neg (by decide)]
        simp only [if_neg refused]
        exact congrFun Except.map_id _

section Operations

variable {s : Store} {k : Key} {r : Record}

theorem Sound.list_of_none (sound : s.Sound) (absent : s.text? k = none) :
    s.list (.ofKey k) = .ok [] := by
  have nothing : Table.find? k.text s.rows = none := absent
  rw [list, readAll_ofKey sound.ordered sound.rows, nothing]

theorem Sound.list_of_some (sound : s.Sound) (writable : r.Writable)
    (found : s.text? k = some r.text) : s.list (.ofKey k) = .ok [r.reread] := by
  have kept : Table.find? k.text s.rows = some r.text := found
  rw [list, readAll_ofKey sound.ordered sound.rows, kept]
  dsimp only
  rw [Record.parse_text writable]
  rfl

theorem find_of_none (absent : s.text? k = none) : s.find k = .ok none := by
  rw [find, absent]

theorem find_of_some (writable : r.Writable) (found : s.text? k = some r.text) :
    s.find k = .ok (some r.reread) := by
  rw [find, found]
  dsimp only
  rw [Record.parse_text writable]
  rfl

/-- The amount that is read in the row of a key. -/
def held (s : Store) (k : Key) : Option Binary64 :=
  match s.find k with
  | .ok (some r) => some r.amount
  | _ => none

theorem held_of_none (absent : s.text? k = none) : s.held k = none := by
  rw [held, find_of_none absent]

theorem held_of_some (writable : r.Writable) (found : s.text? k = some r.text) :
    s.held k = some r.reread.amount := by
  rw [held, find_of_some writable found]

theorem held_write_self (writable : r.Writable) : (s.write k r).held k = some r.reread.amount :=
  held_of_some writable (text?_write_self s k r)

theorem held_write_of_ne {k' : Key} (other : k ≠ k') : (s.write k' r).held k = s.held k := by
  rw [held, held, find, find, text?_write, if_neg other]

theorem create_of_none (absent : s.text? r.key = none) :
    s.create r = (.ok (), s.write r.key r) := by
  rw [create, absent]

theorem create_of_some {text : String} (found : s.text? r.key = some text) :
    s.create r = (.error .duplicate, s) := by
  rw [create, found]

/-- A row after an addition. -/
def added (r : Record) (delta : Binary64) (now : Timestamp) : Record :=
  { r.reread with amount := r.reread.amount.add delta, updatedAt := now }

theorem increment_of_none (absent : s.text? k = none) (delta : Binary64) (now : Timestamp) :
    s.increment k delta now = (.error .notFound, s) := by
  rw [increment, find_of_none absent]

theorem increment_of_some (writable : r.Writable) (found : s.text? k = some r.text)
    (delta : Binary64) (now : Timestamp) :
    s.increment k delta now = (.ok (added r delta now), s.write k (added r delta now)) := by
  rw [increment, find_of_some writable found]
  rfl

theorem added_writable (writable : r.Writable) {delta : Binary64} {now : Timestamp}
    (finite : (added r delta now).amount.isFinite = true) (proper : now.Proper) :
    (added r delta now).Writable :=
  ⟨finite, writable.createdAt, proper⟩

theorem added_key (r : Record) (delta : Binary64) (now : Timestamp) :
    (added r delta now).key = r.key := rfl

end Operations

/-- What an operation writes is finite, and a clock told its moments. -/
def Writes (s : Store) (now : Timestamp) : Query → Prop
  | .create r => r.Writable
  | .increment k delta => ∀ row, (s.increment k delta now).1 = .ok row → row.amount.isFinite = true
  | .now => True
  | .get _ => True
  | .list _ => True

/-- The stores that operations lead to, from the empty one. -/
inductive Reachable : Store → Prop where
  | empty : Reachable empty
  | step {s : Store} {now : Timestamp} {q : Query} (before : Reachable s) (proper : now.Proper)
      (writes : s.Writes now q) : Reachable (s.answer now q).2

theorem Sound.answer {s : Store} {now : Timestamp} {q : Query} (sound : s.Sound)
    (proper : now.Proper) (writes : s.Writes now q) : (s.answer now q).2.Sound := by
  cases q with
  | now => exact sound
  | get f => exact sound
  | list f => exact sound
  | create r =>
      change (s.create r).2.Sound
      cases found : s.text? r.key with
      | none =>
          rw [create_of_none found]
          exact sound.write writes
      | some text =>
          rw [create_of_some found]
          exact sound
  | increment k delta =>
      change (s.increment k delta now).2.Sound
      obtain absent | ⟨r, writable, rfl, found⟩ := sound.text?_cases k
      · rw [increment_of_none absent]
        exact sound
      · have whole := increment_of_some writable found delta now
        have finite := writes (added r delta now) (congrArg Prod.fst whole)
        have kept := sound.write (added_writable writable finite proper)
        rw [added_key] at kept
        rw [whole]
        exact kept

theorem Reachable.sound {s : Store} (reachable : Reachable s) : s.Sound := by
  induction reachable with
  | empty => exact sound_empty
  | step before proper writes ih => exact ih.answer proper writes

/-- Stores that differ in their timestamps only. -/
def Alike (s t : Store) : Prop :=
  List.Forall₂ (fun x y => ∃ r r' : Record, r.Writable ∧ r'.Writable ∧ r.paid = r'.paid ∧
    x = rowOf r ∧ y = rowOf r') s.rows t.rows

theorem Sound.alike {s : Store} (sound : s.Sound) : Alike s s := by
  apply List.forall₂_same.2
  intro row mem
  obtain ⟨r, writable, same⟩ := sound.rows row mem
  exact ⟨r, r, writable, writable, rfl, same, same⟩

theorem alike_keys (x y : String × String)
    (alike : ∃ r r' : Record, r.Writable ∧ r'.Writable ∧ r.paid = r'.paid ∧ x = rowOf r ∧
      y = rowOf r') : x.1 = y.1 := by
  obtain ⟨r, r', -, -, paid, rfl, rfl⟩ := alike
  exact congrArg Key.text (Prod.mk.inj paid).1

theorem Alike.write {s t : Store} (alike : Alike s t) {r r' : Record} (writable : r.Writable)
    (writable' : r'.Writable) (paid : r.paid = r'.paid) :
    Alike (s.write r.key r) (t.write r'.key r') := by
  have key : r.key = r'.key := (Prod.mk.inj paid).1
  have row : rowOf r' = (r.key.text, r'.text) := by
    rw [key]
    rfl
  have new : ∃ q q' : Record, q.Writable ∧ q'.Writable ∧ q.paid = q'.paid ∧
      (r.key.text, r.text) = rowOf q ∧ (r.key.text, r'.text) = rowOf q' :=
    ⟨r, r', writable, writable', paid, rfl, row.symm⟩
  rw [← key]
  exact Table.put_forall₂ alike_keys new alike

/-- What stores that are alike have under a key. -/
theorem Alike.text?_cases {s t : Store} (alike : Alike s t) (k : Key) :
    (s.text? k = none ∧ t.text? k = none) ∨
      ∃ r r' : Record, r.Writable ∧ r'.Writable ∧ r.paid = r'.paid ∧ r.key = k ∧
        s.text? k = some r.text ∧ t.text? k = some r'.text := by
  obtain absent | ⟨a, b, found, found', r, r', writable, writable', paid, row, row'⟩ :=
    Table.find?_forall₂ alike_keys k.text alike
  · exact .inl absent
  · obtain ⟨key, rfl⟩ := Prod.mk.inj row
    obtain ⟨-, rfl⟩ := Prod.mk.inj row'
    exact .inr ⟨r, r', writable, writable', paid, (Key.text_injective key).symm, found, found'⟩

/-- The rows of a store without their timestamps, as they are read. -/
def untimed (s : Store) : List (String × Except Error (Key × Binary64)) :=
  s.rows.map fun row => (row.1, (Record.parse row.2).map Record.paid)

theorem Alike.untimed_eq {s t : Store} (alike : Alike s t) : s.untimed = t.untimed := by
  unfold untimed
  obtain ⟨rows⟩ := s
  obtain ⟨rows'⟩ := t
  change List.Forall₂ _ rows rows' at alike
  induction alike with
  | nil => rfl
  | @cons x y rest rest' same others ih =>
      obtain ⟨r, r', writable, writable', paid, rfl, rfl⟩ := same
      obtain ⟨key, amount⟩ := Prod.mk.inj paid
      have texts := congrArg Key.text key
      have read : (Record.parse r.text).map Record.paid = (Record.parse r'.text).map Record.paid := by
        rw [Record.parse_text writable, Record.parse_text writable']
        exact congrArg Except.ok (Prod.ext key (congrArg Json.NumberText.reread amount))
      rw [List.map_cons, List.map_cons, ih]
      change (r.key.text, (Record.parse r.text).map Record.paid) :: _ =
        (r'.key.text, (Record.parse r'.text).map Record.paid) :: _
      rw [read, texts]

end Store

end Ledger

end TokenFaucet
