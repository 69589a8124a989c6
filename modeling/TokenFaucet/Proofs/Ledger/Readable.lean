import TokenFaucet.Proofs.Ledger.Crediting

set_option autoImplicit false

namespace TokenFaucet

open Json (Node Reading)
open Json.Reading (required)

namespace Json

/-- What is no finite number is read as `null`. -/
theorem written_float_of_not_finite {x : Number.Binary64} (infinite : x.isFinite = false) :
    (Json.number (.float x)).written = .null := by
  have chars : (Number.float x).chars = "null".toList := by
    change floatText x = _
    rw [floatText, infinite, if_neg (by decide)]
  have noNumber : NumberText.read? "null".toList = none := by decide
  rw [Json.written, Number.written, chars, noNumber]

namespace Reading

/-- A member that is a field and cannot be read as one. -/
theorem gatherMembers_fault {α : Type} (f : Field α) {slots : List Slot} {closed : Bool}
    {found : Gathered} {node : Node} {rest : List (Option String × Node)} {fault : Fault}
    (has : slots.find? (fun s => s.name == f.name) = some f.slot)
    (new : found.any (fun entry => entry.1 == f.name) = false) (unread : f.reading node = .error fault) :
    gatherMembers slots closed found ((some f.name, node) :: rest) =
      .error (fault.inside (.field f.name)) := by
  have checked : f.slot.check node = .error fault := by
    change (f.reading node).map _ = _
    rw [unread]
    rfl
  rw [gatherMembers, has]
  dsimp only
  rw [new, checked]
  rfl

end Reading

/-- A text whose tree has a fault at some place. -/
theorem readText_render_mismatch {α : Type} (reading : Reading α) {j : Json} {path : List Step}
    {why : Mismatch} (unread : reading j.written = .error (.mismatch path why)) :
    readText reading j.render = .error (.mismatch path why) := by
  unfold readText
  rw [Node.document_render]
  dsimp only
  rw [unread]

end Json

namespace Ledger

open Store (added rowOf)

/-- Why a row without a finite amount cannot be read. -/
def noAmount : Error :=
  .unreadable (.mismatch [.field "amount"] (.invalidType .null "f64"))

namespace Record

/-- A clock told the moments of a row. -/
structure Dated (r : Record) : Prop where
  createdAt : r.createdAt.Proper
  updatedAt : r.updatedAt.Proper

variable {r : Record}

theorem Dated.writable (dated : r.Dated) (finite : r.amount.isFinite = true) : r.Writable :=
  ⟨finite, dated.createdAt, dated.updatedAt⟩

/-- The text of a row without a finite amount. -/
theorem written_toJson_of_not_finite (infinite : r.amount.isFinite = false) :
    r.toJson.written = .object
      [(some "user_id", .string (some r.userId)), (some "chain_id", .string (some r.chainId)),
        (some "chain_kind", .string (some r.kind.name)),
        (some "token_address", .string (some r.token)), (some "amount", .null),
        (some "created_at", .string (some r.createdAt.text)),
        (some "updated_at", .string (some r.updatedAt.text))] true := by
  rw [← Json.written_float_of_not_finite infinite]
  rfl

theorem parse_text_of_not_finite (infinite : r.amount.isFinite = false) :
    parse r.text = .error noAmount := by
  have kind := ChainKind.required_name "chain_kind" r.kind
  have amount : (required "amount" Reading.binary64).reading .null =
      .error (.mismatch [] (.invalidType .null "f64")) := rfl
  have members : Reading.gatherMembers slots true []
      [(some "user_id", .string (some r.userId)), (some "chain_id", .string (some r.chainId)),
        (some "chain_kind", .string (some r.kind.name)),
        (some "token_address", .string (some r.token)), (some "amount", .null),
        (some "created_at", .string (some r.createdAt.text)),
        (some "updated_at", .string (some r.updatedAt.text))] =
      .error (.mismatch [.field "amount"] (.invalidType .null "f64")) := by
    refine (Reading.gatherMembers_field (required "user_id" Reading.string) rfl rfl
      (a := r.userId) rfl).trans ?_
    refine (Reading.gatherMembers_field (required "chain_id" Reading.string) rfl rfl
      (a := r.chainId) rfl).trans ?_
    refine (Reading.gatherMembers_field (required "chain_kind" ChainKind.reading) rfl rfl
      kind).trans ?_
    refine (Reading.gatherMembers_field (required "token_address" Reading.string) rfl rfl
      (a := r.token) rfl).trans ?_
    exact Reading.gatherMembers_fault (required "amount" Reading.binary64) rfl rfl amount
  have unread : reading r.toJson.written =
      .error (.mismatch [.field "amount"] (.invalidType .null "f64")) := by
    unfold slots at members
    rw [written_toJson_of_not_finite infinite]
    unfold reading Reading.record
    simp only [members, bind, Except.bind]
  unfold parse text
  rw [Json.readText_render_mismatch reading unread]
  rfl

end Record

namespace Store

/-- A store of such rows, each under its own key. -/
structure Holds (P : Record → Prop) (s : Store) : Prop where
  ordered : s.rows.Pairwise fun x y => x.1 < y.1
  rows : ∀ row ∈ s.rows, ∃ r : Record, P r ∧ row = rowOf r

variable {P : Record → Prop} {s : Store} {k : Key} {r : Record}

theorem holds_empty (P : Record → Prop) : empty.Holds P where
  ordered := List.Pairwise.nil
  rows := fun _ mem => nomatch mem

theorem Holds.write (holds : s.Holds P) (new : P r) : (s.write r.key r).Holds P where
  ordered := Table.put_ordered holds.ordered
  rows := by
    intro row mem
    obtain own | earlier := Table.mem_put mem
    · exact ⟨r, new, own⟩
    · exact holds.rows row earlier

/-- What a store has under a key. -/
theorem Holds.text?_cases (holds : s.Holds P) (k : Key) :
    s.text? k = none ∨ ∃ r : Record, P r ∧ r.key = k ∧ s.text? k = some r.text := by
  cases found : s.text? k with
  | none => exact .inl rfl
  | some text =>
      obtain ⟨r, kind, row⟩ := holds.rows _ (Table.mem_of_find? found)
      obtain ⟨key, rfl⟩ := Prod.mk.inj row
      exact .inr ⟨r, kind, (Key.text_injective key).symm, rfl⟩

/-- A row without a finite amount can be neither read nor added to. -/
theorem find_of_not_finite (found : s.text? k = some r.text) (infinite : r.amount.isFinite = false) :
    s.find k = .error noAmount := by
  rw [find, found]
  dsimp only
  rw [Record.parse_text_of_not_finite infinite]
  rfl

theorem increment_of_not_finite (found : s.text? k = some r.text)
    (infinite : r.amount.isFinite = false) (delta : Number.Binary64) (now : Timestamp) :
    s.increment k delta now = (.error noAmount, s) := by
  rw [increment, find_of_not_finite found infinite]

/-- Everything can be read, and every row can be added to. -/
structure Readable (s : Store) : Prop where
  list : ∀ f, ∃ rows, s.list f = .ok rows
  get : ∀ f, ∃ row, s.get f = .ok row
  increment : ∀ k delta now, s.text? k ≠ none → ∃ row, (s.increment k delta now).1 = .ok row

theorem readAll_isOk {rows : List (String × String)}
    (readable : ∀ row ∈ rows, ∃ r : Record, r.Writable ∧ row = rowOf r) (f : Filter) :
    ∃ found, readAll f rows = .ok found := by
  induction rows with
  | nil => exact ⟨[], rfl⟩
  | cons row rest ih =>
      obtain ⟨r, writable, rfl⟩ := readable row (List.mem_cons_self ..)
      obtain ⟨others, read⟩ := ih fun row mem => readable row (List.mem_cons_of_mem _ mem)
      rw [rowOf, readAll_cons _ _ (Record.parse_text writable), read]
      exact ⟨_, rfl⟩

theorem readFirst_isOk {rows : List (String × String)}
    (readable : ∀ row ∈ rows, ∃ r : Record, r.Writable ∧ row = rowOf r) (f : Filter) :
    ∃ found, readFirst f rows = .ok found := by
  induction rows with
  | nil => exact ⟨none, rfl⟩
  | cons row rest ih =>
      obtain ⟨r, writable, rfl⟩ := readable row (List.mem_cons_self ..)
      obtain ⟨later, read⟩ := ih fun row mem => readable row (List.mem_cons_of_mem _ mem)
      rw [rowOf, readFirst, Record.parse_text writable]
      change ∃ found, (if f.accepts r.reread then pure (some r.reread) else readFirst f rest) =
        .ok found
      split
      · exact ⟨_, rfl⟩
      · exact ⟨later, read⟩

theorem Sound.readable (sound : s.Sound) : s.Readable where
  list := readAll_isOk sound.rows
  get := by
    intro f
    unfold Store.get
    split
    · next k whole =>
        obtain absent | ⟨r, writable, -, found⟩ := sound.text?_cases k
        · exact ⟨_, find_of_none absent⟩
        · exact ⟨_, find_of_some writable found⟩
    · exact readFirst_isOk sound.rows f
  increment := by
    intro k delta now present
    obtain absent | ⟨r, writable, -, found⟩ := sound.text?_cases k
    · exact absurd absent present
    · rw [increment_of_some writable found]
      exact ⟨_, rfl⟩

/-- A row that cannot be read is in the way of all. -/
theorem parse_of_readAll {rows : List (String × String)} {found : List Record} {f : Filter}
    (read : readAll f rows = .ok found) {row : String × String} (mem : row ∈ rows) :
    ∃ r, Record.parse row.2 = .ok r := by
  induction rows generalizing found with
  | nil => cases mem
  | cons first rest ih =>
      obtain ⟨key, text⟩ := first
      rw [readAll] at read
      cases parsed : Record.parse text with
      | error e =>
          rw [parsed] at read
          cases read
      | ok r =>
          rw [parsed] at read
          rcases List.mem_cons.1 mem with rfl | later
          · exact ⟨r, parsed⟩
          · cases others : readAll f rest with
            | error e =>
                change (readAll f rest >>= _) = _ at read
                rw [others] at read
                cases read
            | ok found' => exact ih others later

theorem list_of_not_finite (found : s.text? k = some r.text) (infinite : r.amount.isFinite = false)
    (f : Filter) : ∃ e, s.list f = .error e := by
  cases read : s.list f with
  | error e => exact ⟨e, rfl⟩
  | ok rows =>
      obtain ⟨r', parsed⟩ := parse_of_readAll read (Table.mem_of_find? found)
      rw [Record.parse_text_of_not_finite infinite] at parsed
      cases parsed

/-- What a question does to a store: nothing, or one row is written, and never in the place of a row
without a finite amount. -/
theorem Holds.ticks {s' : Store} {q : Query} {a : q.Answer} (holds : s.Holds Record.Dated)
    (dated : ∀ r, q = .create r → r.Dated) (ticks : Ticks q s a s') :
    (written? ⟨q, a⟩ = none ∧ s' = s) ∨ ∃ row : Record, written? ⟨q, a⟩ = some row ∧ row.Dated ∧
      s' = s.write row.key row ∧
        ∀ r : Record, s.text? row.key = some r.text → r.amount.isFinite = true := by
  obtain ⟨now, proper, answered⟩ := ticks
  cases q with
  | now => exact .inl ⟨rfl, (Prod.mk.inj answered).2.symm⟩
  | get f => exact .inl ⟨rfl, (Prod.mk.inj answered).2.symm⟩
  | list f => exact .inl ⟨rfl, (Prod.mk.inj answered).2.symm⟩
  | create row =>
      change s.create row = (a, s') at answered
      cases found : s.text? row.key with
      | none =>
          rw [create_of_none found] at answered
          obtain ⟨rfl, rfl⟩ := Prod.mk.inj answered
          refine .inr ⟨row, rfl, dated row rfl, rfl, fun r present => ?_⟩
          rw [found] at present
          cases present
      | some text =>
          rw [create_of_some found] at answered
          obtain ⟨rfl, rfl⟩ := Prod.mk.inj answered
          exact .inl ⟨rfl, rfl⟩
  | increment k delta =>
      change s.increment k delta now = (a, s') at answered
      obtain absent | ⟨r, datedRow, rfl, found⟩ := holds.text?_cases k
      · rw [increment_of_none absent] at answered
        obtain ⟨rfl, rfl⟩ := Prod.mk.inj answered
        exact .inl ⟨rfl, rfl⟩
      · cases finite : r.amount.isFinite with
        | false =>
            rw [increment_of_not_finite found finite] at answered
            obtain ⟨rfl, rfl⟩ := Prod.mk.inj answered
            exact .inl ⟨rfl, rfl⟩
        | true =>
            rw [increment_of_some (datedRow.writable finite) found] at answered
            obtain ⟨rfl, rfl⟩ := Prod.mk.inj answered
            refine .inr ⟨added r delta now, rfl, ⟨datedRow.createdAt, proper⟩, rfl, ?_⟩
            intro r' found'
            cases finite' : r'.amount.isFinite with
            | true => rfl
            | false =>
                have same : r.text = r'.text := Option.some.inj (found.symm.trans found')
                have parsed := Record.parse_text (datedRow.writable finite)
                rw [same, Record.parse_text_of_not_finite finite'] at parsed
                cases parsed

end Store

end Ledger

end TokenFaucet
