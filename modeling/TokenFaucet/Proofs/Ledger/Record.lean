import TokenFaucet.Ledger.Store
import TokenFaucet.Proofs.Json.FloatReading
import TokenFaucet.Proofs.Json.Array
import TokenFaucet.Proofs.Timestamp

set_option autoImplicit false

namespace TokenFaucet

open Json (Node Reading)
open Json.Reading (required)
open Json.NumberText (reread)

namespace Json

theorem written_float {x : Number.Binary64} (finite : x.isFinite = true) :
    (Json.number (.float x)).written = .number (some (.float (reread x))) := by
  have chars : (Number.float x).chars = Number.DecimalLayout.json.characters x := if_pos finite
  rw [Json.written, Number.written, chars, NumberText.read?_characters]
  exact congrArg Node.number (NumberText.number?_reread finite)

namespace Reading

/-- A member that is a field of its own. -/
theorem gatherMembers_field {α : Type} (f : Field α) {a : α} {slots : List Slot} {closed : Bool}
    {found : Gathered} {node : Node} {rest : List (Option String × Node)}
    (has : slots.find? (fun s => s.name == f.name) = some f.slot)
    (new : found.any (fun entry => entry.1 == f.name) = false) (read : f.reading node = .ok a) :
    gatherMembers slots closed found ((some f.name, node) :: rest) =
      gatherMembers slots closed (found ++ [(f.name, node)]) rest := by
  have checked : f.slot.check node = .ok () := by
    change (f.reading node).map _ = _
    rw [read]
    rfl
  rw [gatherMembers, has]
  dsimp only
  rw [new, checked]
  rfl

theorem variant_string {α : Type} {names : List (String × α)} {s : String} {a : α}
    (found : names.find? (fun n => n.1 == s) = some (s, a)) :
    variant names (.string (some s)) = .ok a := by
  change variant.ofName names s = _
  unfold variant.ofName
  rw [found]

/-- The value of a field that was found. -/
theorem Gathered.get_of_find {α : Type} {found : Gathered} (f : Field α) {node : Node} {a : α}
    (has : found.find? (fun entry => entry.1 == f.name) = some (f.name, node))
    (read : f.reading node = .ok a) : found.get f = .ok a := by
  unfold Gathered.get
  rw [has]
  exact read

end Reading

/-- An array of strings is read as any value, too. -/
theorem parse_strings (parts : List String) :
    parse (Json.array (parts.map .string)).render = .ok (.array (parts.map .string)) := by
  have items (depth : Nat) : Reading.jsonItems depth (writtenItems (parts.map .string)) =
      .ok (parts.map .string) := by
    induction parts with
    | nil => rfl
    | cons part rest ih =>
        rw [List.map_cons, writtenItems, written, Reading.jsonItems, Reading.json, ih]
        rfl
  apply readText_render
  rw [written, Reading.json]
  simp only [items]
  rfl

end Json

theorem ChainKind.reading_name (kind : ChainKind) :
    ChainKind.reading (.string (some kind.name)) = .ok kind := by
  have found : (ChainKind.all.map fun kind => (kind.name, kind)).find?
      (fun n => n.1 == kind.name) = some (kind.name, kind) := by
    cases kind <;> decide
  unfold ChainKind.reading
  exact Reading.variant_string found

theorem ChainKind.ofName?_name (kind : ChainKind) : ChainKind.ofName? kind.name = some kind := by
  cases kind <;> decide

theorem ChainKind.required_name (field : String) (kind : ChainKind) :
    (required field ChainKind.reading).reading (.string (some kind.name)) = .ok kind :=
  ChainKind.reading_name kind

theorem Timestamp.reading_text {t : Timestamp} (proper : t.Proper) :
    Timestamp.reading (.string (some t.text)) = .ok t := by
  unfold Timestamp.reading
  dsimp only
  rw [Timestamp.parse?_text proper]

theorem Timestamp.required_text (field : String) {t : Timestamp} (proper : t.Proper) :
    (required field Timestamp.reading).reading (.string (some t.text)) = .ok t := by
  dsimp only [required]
  exact Timestamp.reading_text proper

namespace Ledger

namespace Record

/-- Rows that can be written: the amount is finite and a clock told the moments. -/
structure Writable (r : Record) : Prop where
  amount : r.amount.isFinite = true
  createdAt : r.createdAt.Proper
  updatedAt : r.updatedAt.Proper

/-- What the text of a row is read as. -/
def reread (r : Record) : Record :=
  { r with amount := Json.NumberText.reread r.amount }

/-- What is found in the text of a row. -/
def gathered (r : Record) : Reading.Gathered :=
  [("user_id", .string (some r.userId)), ("chain_id", .string (some r.chainId)),
    ("chain_kind", .string (some r.kind.name)), ("token_address", .string (some r.token)),
    ("amount", .number (some (.float (Json.NumberText.reread r.amount)))),
    ("created_at", .string (some r.createdAt.text)), ("updated_at", .string (some r.updatedAt.text))]

/-- What is looked for in the text of a row. -/
def slots : List Reading.Slot :=
  [(required "user_id" Reading.string).slot, (required "chain_id" Reading.string).slot,
    (required "chain_kind" ChainKind.reading).slot, (required "token_address" Reading.string).slot,
    (required "amount" Reading.binary64).slot, (required "created_at" Timestamp.reading).slot,
    (required "updated_at" Timestamp.reading).slot]

section Text

variable {r : Record}

theorem written_toJson (writable : r.Writable) :
    r.toJson.written = .object (r.gathered.map fun entry => (some entry.1, entry.2)) true := by
  change _ = Node.object [_, _, _, _, (_, .number (some (.float _))), _, _] true
  rw [← Json.written_float writable.amount]
  rfl

/-- Everything that is looked for is found. -/
theorem gatherMembers_gathered (writable : r.Writable) :
    Reading.gatherMembers slots true [] (r.gathered.map fun entry => (some entry.1, entry.2)) =
      .ok r.gathered := by
  have kind := ChainKind.required_name "chain_kind" r.kind
  have createdAt := Timestamp.required_text "created_at" writable.createdAt
  have updatedAt := Timestamp.required_text "updated_at" writable.updatedAt
  refine (Reading.gatherMembers_field (required "user_id" Reading.string) rfl rfl
    (a := r.userId) rfl).trans ?_
  refine (Reading.gatherMembers_field (required "chain_id" Reading.string) rfl rfl
    (a := r.chainId) rfl).trans ?_
  refine (Reading.gatherMembers_field (required "chain_kind" ChainKind.reading) rfl rfl
    kind).trans ?_
  refine (Reading.gatherMembers_field (required "token_address" Reading.string) rfl rfl
    (a := r.token) rfl).trans ?_
  refine (Reading.gatherMembers_field (required "amount" Reading.binary64) rfl rfl
    (a := Json.NumberText.reread r.amount) rfl).trans ?_
  refine (Reading.gatherMembers_field (required "created_at" Timestamp.reading) rfl rfl
    createdAt).trans ?_
  exact Reading.gatherMembers_field (required "updated_at" Timestamp.reading) rfl rfl updatedAt

theorem reading_toJson (writable : r.Writable) : reading r.toJson.written = .ok r.reread := by
  have gathered := gatherMembers_gathered writable
  have userId : r.gathered.get (required "user_id" Reading.string) = .ok r.userId :=
    Reading.Gathered.get_of_find _ rfl rfl
  have chainId : r.gathered.get (required "chain_id" Reading.string) = .ok r.chainId :=
    Reading.Gathered.get_of_find _ rfl rfl
  have kind : r.gathered.get (required "chain_kind" ChainKind.reading) = .ok r.kind :=
    Reading.Gathered.get_of_find _ rfl (ChainKind.required_name "chain_kind" r.kind)
  have token : r.gathered.get (required "token_address" Reading.string) = .ok r.token :=
    Reading.Gathered.get_of_find _ rfl rfl
  have amount : r.gathered.get (required "amount" Reading.binary64) =
      .ok (Json.NumberText.reread r.amount) := Reading.Gathered.get_of_find _ rfl rfl
  have createdAt : r.gathered.get (required "created_at" Timestamp.reading) = .ok r.createdAt :=
    Reading.Gathered.get_of_find _ rfl (Timestamp.required_text "created_at" writable.createdAt)
  have updatedAt : r.gathered.get (required "updated_at" Timestamp.reading) = .ok r.updatedAt :=
    Reading.Gathered.get_of_find _ rfl (Timestamp.required_text "updated_at" writable.updatedAt)
  rw [written_toJson writable]
  unfold slots at gathered
  unfold reading Json.Reading.record
  simp only [gathered, userId, chainId, kind, token, amount, createdAt, updatedAt, bind,
    Except.bind]
  rfl

theorem parse_text (writable : r.Writable) : parse r.text = .ok r.reread := by
  unfold parse text
  rw [Json.readText_render reading (reading_toJson writable)]
  rfl

end Text

end Record

/-- No two keys share a text. -/
theorem Key.text_injective {k k' : Key} (same : k.text = k'.text) : k = k' := by
  have trees := congrArg Node.document same
  unfold Key.text at trees
  rw [Node.document_render, Node.document_render] at trees
  have parts := (Node.Document.mk.injEq .. ▸ trees).1
  simp only [Json.written, Json.writtenItems, Node.array.injEq, List.cons.injEq, Node.string.injEq,
    Option.some.injEq, and_true] at parts
  obtain ⟨user, chain, kind, token⟩ := parts
  cases k
  cases k'
  dsimp only at user chain kind token
  rw [user, chain, ChainKind.name_injective kind, token]

/-- The four strings of a key, the family of networks by its name. -/
def Key.parts (k : Key) : List String :=
  [k.userId, k.chainId, k.kind.name, k.token]

theorem Key.text_eq (k : Key) : k.text = (Json.array (k.parts.map .string)).render := rfl

/-- The text of a key is the text of an array of strings, and read as one it gives the parts of the key,
of which the third names its family of networks; so no two keys share a text. -/
theorem Key.text_unambiguous (k : Key) :
    Json.parse k.text = .ok (.array [.string k.userId, .string k.chainId, .string k.kind.name,
      .string k.token]) ∧
    Json.readText (.list .string) k.text = .ok [k.userId, k.chainId, k.kind.name, k.token] ∧
    ChainKind.ofName? k.kind.name = some k.kind ∧
    ∀ k' : Key, k.text = k'.text ↔ k = k' := by
  refine ⟨?_, ?_, k.kind.ofName?_name, fun k' => ⟨Key.text_injective, congrArg Key.text⟩⟩
  · rw [text_eq]
    exact Json.parse_strings k.parts
  · rw [text_eq]
    exact Json.readText_array Json.string_written k.parts

example : (⟨"a\",\"b", "", .near, "\\"⟩ : Key).text = "[\"a\\\",\\\"b\",\"\",\"near\",\"\\\\\"]" := by
  decide

end Ledger

end TokenFaucet
