import TokenFaucet.Json.Node
import TokenFaucet.Json.Printer
import TokenFaucet.Text.Debug

set_option autoImplicit false

/-!
Typed readings of JSON trees. A reading walks a tree in the order of its text and stops at the first
fault it comes to, be it a fault of the text or a value of the wrong kind. A record may also be given
as an array of its fields; members that a record does not have are passed over.
-/

namespace TokenFaucet.Json

open TokenFaucet.Number (Binary64 DecimalLayout)

/-- What was found where something else was expected. -/
inductive Found where
  | null
  | bool (b : Bool)
  | integer (i : Int)
  | float (x : Binary64)
  | string (s : String)
  | sequence
  | map
deriving DecidableEq

def Found.message : Found → String
  | .null => "null"
  | .bool b => s!"boolean `{b}`"
  | .integer i => s!"integer `{i}`"
  | .float x => s!"floating point `{DecimalLayout.json.text x}`"
  | .string s => "string " ++ Text.debugQuoted s
  | .sequence => "sequence"
  | .map => "map"

/-- Why a well-formed value is not what was asked for. -/
inductive Mismatch where
  | invalidType (found : Found) (expected : String)
  | invalidValue (found : Found) (expected : String)
  | invalidLength (length : Nat) (expected : String)
  | missingField (name : String)
  | duplicateField (name : String)
  | unknownVariant (name : String) (expected : List String)
  | unreadable (reason : String)
deriving DecidableEq

/-- The names that were expected, as a list in words. -/
def oneOf : List String → String
  | [] => "there are no variants"
  | [a] => s!"expected `{a}`"
  | [a, b] => s!"expected `{a}` or `{b}`"
  | names => "expected one of " ++ String.intercalate ", " (names.map fun n => s!"`{n}`")

def Mismatch.message : Mismatch → String
  | .invalidType found expected => s!"invalid type: {found.message}, expected {expected}"
  | .invalidValue found expected => s!"invalid value: {found.message}, expected {expected}"
  | .invalidLength length expected => s!"invalid length {length}, expected {expected}"
  | .missingField name => s!"missing field `{name}`"
  | .duplicateField name => s!"duplicate field `{name}`"
  | .unknownVariant name expected => s!"unknown variant `{name}`, {oneOf expected}"
  | .unreadable reason => reason

/-- A step from a value to one inside it. -/
inductive Step where
  | field (name : String)
  | item (index : Nat)
deriving DecidableEq

/-- Why a tree could not be read: the text is malformed, an array of a record's fields has items
left over, or a value at some place is not what was asked for. -/
inductive Fault where
  | malformed
  | surplus (length : Nat)
  | mismatch (path : List Step) (why : Mismatch)
deriving DecidableEq

/-- The wording of a fault, wherever in the text it is. -/
def Fault.message : Fault → String
  | .malformed => "malformed text"
  | .surplus _ => "trailing characters"
  | .mismatch _ why => why.message

/-- A fault seen from one level further out. -/
def Fault.inside (step : Step) : Fault → Fault
  | .mismatch path why => .mismatch (step :: path) why
  | fault => fault

/-- A reading of trees as values of a type. -/
abbrev Reading (α : Type) := Node → Except Fault α

namespace Reading

variable {α β : Type}

/-- The fault of a tree that is not of the expected kind. The value is part of the message, so a
literal that stands for nothing is a fault of the text. -/
def wrong (expected : String) (node : Node) : Fault :=
  match node with
  | .fault => .malformed
  | .null => .mismatch [] (.invalidType .null expected)
  | .bool b => .mismatch [] (.invalidType (.bool b) expected)
  | .number (some (.integer i)) => .mismatch [] (.invalidType (.integer i) expected)
  | .number (some (.float x)) => .mismatch [] (.invalidType (.float x) expected)
  | .number none => .malformed
  | .string (some s) => .mismatch [] (.invalidType (.string s) expected)
  | .string none => .malformed
  | .array _ _ => .mismatch [] (.invalidType .sequence expected)
  | .object _ _ => .mismatch [] (.invalidType .map expected)

def string : Reading String
  | .string (some s) => .ok s
  | node => .error (wrong "a string" node)

def bool : Reading Bool
  | .bool b => .ok b
  | node => .error (wrong "a boolean" node)

/-- Reads a number that is not negative and below a bound. -/
def natural (bound : Nat) (expected : String) : Reading Nat
  | .number (some (.integer i)) =>
    if 0 ≤ i ∧ i < bound then .ok i.toNat
    else .error (.mismatch [] (.invalidValue (.integer i) expected))
  | node => .error (wrong expected node)

def uint8 : Reading UInt8 := fun node => (natural UInt8.size "u8" node).map UInt8.ofNat

def uint64 : Reading UInt64 := fun node => (natural UInt64.size "u64" node).map UInt64.ofNat

/-- Reads a binary number; an integer is rounded to the nearest one. -/
def binary64 : Reading Binary64
  | .number (some (.integer i)) => .ok (Binary64.ofInt i)
  | .number (some (.float x)) => .ok x
  | node => .error (wrong "f64" node)

def optional (reading : Reading α) : Reading (Option α)
  | .null => .ok none
  | node => (reading node).map some

/-- Reads the items of an array one after another. -/
def itemsFrom (reading : Reading α) (closed : Bool) : Nat → List Node → Except Fault (List α)
  | _, [] => if closed then .ok [] else .error .malformed
  | index, node :: rest => do
    let a ← (reading node).mapError (·.inside (.item index))
    let others ← itemsFrom reading closed (index + 1) rest
    .ok (a :: others)

def list (reading : Reading α) : Reading (List α)
  | .array items closed => itemsFrom reading closed 0 items
  | node => .error (wrong "a sequence" node)

/-- Reads a name that stands for one of several values, either alone or as the only member, of
value `null`, of an object. -/
def variant (names : List (String × α)) : Reading α
  | .string (some s) => ofName s
  | .object [] true => .error .malformed
  | .object ((some name, value) :: rest) closed => do
    let a ← ofName name
    match value with
    | .null => if rest.isEmpty && closed then .ok a else .error .malformed
    | node => .error (wrong "unit" node)
  | _ => .error .malformed
where
  ofName (s : String) : Except Fault α :=
    match names.find? fun n => n.1 == s with
    | some n => .ok n.2
    | none => .error (.mismatch [] (.unknownVariant s (names.map (·.1))))

/-- A field of a record: its name, its reading, and what it is when it is missing. -/
structure Field (α : Type) where
  name : String
  reading : Reading α
  default : Option α

def required (name : String) (reading : Reading α) : Field α := ⟨name, reading, none⟩

/-- A field with a value for when it is missing. -/
def defaulted (name : String) (reading : Reading α) (value : α) : Field α :=
  ⟨name, reading, some value⟩

/-- A field without its type: whether it can be read, and whether it may be missing. -/
structure Slot where
  name : String
  check : Node → Except Fault Unit
  mayMiss : Bool

def Field.slot (f : Field α) : Slot :=
  ⟨f.name, fun node => (f.reading node).map fun _ => (), f.default.isSome⟩

/-- The trees found for the fields of a record. -/
abbrev Gathered := List (String × Node)

/-- Goes through the members of an object: every field is readable and given once. -/
def gatherMembers (slots : List Slot) (closed : Bool) :
    Gathered → List (Option String × Node) → Except Fault Gathered
  | found, [] => if closed then .ok found else .error .malformed
  | _, (none, _) :: _ => .error .malformed
  | found, (some name, node) :: rest =>
    match slots.find? fun s => s.name == name with
    | none => gatherMembers slots closed found rest
    | some slot =>
      if found.any fun f => f.1 == name then .error (.mismatch [] (.duplicateField name))
      else do
        (slot.check node).mapError (·.inside (.field name))
        gatherMembers slots closed (found ++ [(name, node)]) rest

/-- Goes through the items of an array that gives the fields in order. -/
def gatherItems (expected : String) (length : Nat) (closed : Bool) :
    Nat → Gathered → List Slot → List Node → Except Fault Gathered
  | _, found, [], [] => if closed then .ok found else .error .malformed
  | _, _, [], _ :: _ => .error (.surplus length)
  | index, found, slot :: slots, [] =>
    if !closed then .error .malformed
    else if slot.mayMiss then gatherItems expected length closed (index + 1) found slots []
    else .error (.mismatch [] (.invalidLength index expected))
  | index, found, slot :: slots, node :: rest => do
    (slot.check node).mapError (·.inside (.item index))
    gatherItems expected length closed (index + 1) (found ++ [(slot.name, node)]) slots rest

/-- What was found for a field, its default if it is missing. -/
def Gathered.get (found : Gathered) (f : Field α) : Except Fault α :=
  match found.find? fun entry => entry.1 == f.name, f.default with
  | some entry, _ => f.reading entry.2
  | none, some value => .ok value
  | none, none => .error (.mismatch [] (.missingField f.name))

/-- The length of a record given as an array, in words. -/
def elements (typeName : String) (count : Nat) : String :=
  s!"struct {typeName} with {count} element" ++ if count = 1 then "" else "s"

/-- Reads a record, given as an object or as an array of its fields. -/
def record (typeName : String) (slots : List Slot) (build : Gathered → Except Fault α) : Reading α
  | .object members closed => do
    build (← gatherMembers slots closed [] members)
  | .array items closed => do
    build (← gatherItems (elements typeName slots.length) items.length closed 0 [] slots items)
  | node => .error (wrong s!"struct {typeName}" node)

mutual

/-- Reads any value. An array or object inside `depth` others, and any literal that stands for
nothing, is refused. -/
def json (depth : Nat) : Reading Json
  | .fault => .error .malformed
  | .null => .ok .null
  | .bool b => .ok (.bool b)
  | .number (some n) => .ok (.number n)
  | .number none => .error .malformed
  | .string (some s) => .ok (.string s)
  | .string none => .error .malformed
  | .array items closed => do
    if depth = 0 then throw .malformed
    let values ← jsonItems (depth - 1) items
    if closed then .ok (.array values) else .error .malformed
  | .object members closed => do
    if depth = 0 then throw .malformed
    let values ← jsonMembers (depth - 1) members
    if closed then .ok (Json.ofMembers values) else .error .malformed

def jsonItems (depth : Nat) : List Node → Except Fault (List Json)
  | [] => .ok []
  | node :: rest => do
    let value ← json depth node
    let others ← jsonItems depth rest
    .ok (value :: others)

def jsonMembers (depth : Nat) : List (Option String × Node) → Except Fault (List (String × Json))
  | [] => .ok []
  | (none, _) :: _ => .error .malformed
  | (some name, node) :: rest => do
    let value ← json depth node
    let others ← jsonMembers depth rest
    .ok ((name, value) :: others)

end

end Reading

/-- How deep a value may be nested. -/
def maxDepth : Nat := 127

/-- Reads a text; nothing but blanks may follow the value. -/
def readText {α : Type} (reading : Reading α) (text : String) : Except Fault α :=
  let d := Node.document text
  match reading d.root with
  | .ok a => if d.complete then .ok a else .error .malformed
  | .error (.surplus _) => .error .malformed
  | .error fault => .error fault

def parse (text : String) : Except Fault Json :=
  readText (Reading.json maxDepth) text

mutual

def toNode : Json → Node
  | .null => .null
  | .bool b => .bool b
  | .number n => .number (some n)
  | .string s => .string (some s)
  | .array items => .array (itemNodes items) true
  | .object members => .object (memberNodes members) true

def itemNodes : List Json → List Node
  | [] => []
  | item :: rest => toNode item :: itemNodes rest

def memberNodes : List (String × Json) → List (Option String × Node)
  | [] => []
  | (name, value) :: rest => (some name, toNode value) :: memberNodes rest

end

def readValue {α : Type} (reading : Reading α) (j : Json) : Except Fault α :=
  match reading j.toNode with
  | .error (.surplus length) =>
    .error (.mismatch [] (.invalidLength length "fewer elements in array"))
  | result => result

end TokenFaucet.Json
