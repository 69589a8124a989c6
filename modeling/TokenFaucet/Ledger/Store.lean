import TokenFaucet.Json.Reading
import TokenFaucet.Ledger.Filter
import TokenFaucet.Table

set_option autoImplicit false

/-!
The store of the ledger: texts of rows under texts of keys, in the order of the latter. A key is the
JSON text of an array of its four parts, so that no two keys share a text, and a row is the JSON text
of its record; every operation reads and writes these texts. An operation that writes one row is one
step, whatever else goes on.
-/

namespace TokenFaucet.Ledger

/-- Why an operation of the ledger failed. -/
inductive Error where
  /-- A row of that key is there already. -/
  | duplicate
  | notFound
  | storage (why : String)
  | unreadable (why : Json.Fault)
deriving DecidableEq

def Error.message : Error → String
  | .duplicate => "balance record already exists"
  | .notFound => "balance record not found"
  | .storage why => s!"ledger storage error: {why}"
  | .unreadable why => s!"serialization error: {why.message}"

def Key.text (k : Key) : String :=
  (Json.array [.string k.userId, .string k.chainId, .string k.kind.name, .string k.token]).render

def Record.text (r : Record) : String :=
  r.toJson.render

def Record.parse (text : String) : Except Error Record :=
  (Json.readText Record.reading text).mapError .unreadable

/-- The rows, under the texts of their keys. -/
structure Store where
  rows : List (String × String)
deriving DecidableEq

namespace Store

def empty : Store := ⟨[]⟩

def text? (s : Store) (k : Key) : Option String :=
  Table.find? k.text s.rows

/-- Writes a row in the place of its key. -/
def write (s : Store) (k : Key) (r : Record) : Store :=
  ⟨Table.put (fun a b => decide (a < b)) k.text r.text s.rows⟩

def find (s : Store) (k : Key) : Except Error (Option Record) :=
  match s.text? k with
  | some text => (Record.parse text).map some
  | none => .ok none

/-- The rows of a list that pass a filter; none may be unreadable. -/
def readAll (f : Filter) : List (String × String) → Except Error (List Record)
  | [] => .ok []
  | (_, text) :: rest => do
    let r ← Record.parse text
    let others ← readAll f rest
    return if f.accepts r then r :: others else others

/-- The first row of a list that passes a filter; none before it may be unreadable. -/
def readFirst (f : Filter) : List (String × String) → Except Error (Option Record)
  | [] => .ok none
  | (_, text) :: rest => do
    let r ← Record.parse text
    if f.accepts r then return some r else readFirst f rest

/-- The first row that passes a filter. -/
def get (s : Store) (f : Filter) : Except Error (Option Record) :=
  match f.key? with
  | some k => s.find k
  | none => readFirst f s.rows

/-- All rows that pass a filter, in the order of the texts of their keys. -/
def list (s : Store) (f : Filter) : Except Error (List Record) :=
  readAll f s.rows

/-- Writes a row for a key that has none. -/
def create (s : Store) (r : Record) : Except Error Unit × Store :=
  match s.text? r.key with
  | some _ => (.error .duplicate, s)
  | none => (.ok (), s.write r.key r)

/-- Adds to the amount of a row; the result is the row as it was written. -/
def increment (s : Store) (k : Key) (delta : Number.Binary64) (now : Timestamp) :
    Except Error Record × Store :=
  match s.find k with
  | .error e => (.error e, s)
  | .ok none => (.error .notFound, s)
  | .ok (some r) =>
    let r := { r with amount := r.amount.add delta, updatedAt := now }
    (.ok r, s.write k r)

end Store

/-- A question to the ledger and its clock. -/
inductive Query where
  | now
  | get (f : Filter)
  | list (f : Filter)
  | create (r : Record)
  | increment (k : Key) (delta : Number.Binary64)

def Query.Answer : Query → Type
  | now => Timestamp
  | get _ => Except Error (Option Record)
  | list _ => Except Error (List Record)
  | create _ => Except Error Unit
  | increment _ _ => Except Error Record

/-- The answer of a store at a moment; each is one step. -/
def Store.answer (s : Store) (now : Timestamp) : (q : Query) → q.Answer × Store
  | .now => (now, s)
  | .get f => (s.get f, s)
  | .list f => (s.list f, s)
  | .create r => s.create r
  | .increment k delta => s.increment k delta now

end TokenFaucet.Ledger
