import TokenFaucet.Json.Quoted
import TokenFaucet.Json.NumberText

set_option autoImplicit false

/-!
JSON texts as trees. Reading a text gives the tree of all that stands before the first fault of the
text. A literal may stand for nothing, as a number too large or a surrogate without a partner does;
that is a fault only for whoever reads it, and a member that nobody reads may hold such a literal.
-/

namespace TokenFaucet.Json

inductive Node where
  /-- The text goes wrong here. -/
  | fault
  | null
  | bool (b : Bool)
  /-- A number; none if it is too large for any. -/
  | number (n : Option Number)
  /-- A string; none if a surrogate has no partner. -/
  | string (s : Option String)
  /-- The items, and whether the text goes on after them without a fault. -/
  | array (items : List Node) (closed : Bool)
  /-- The members, and whether the text goes on after them without a fault. -/
  | object (members : List (Option String × Node)) (closed : Bool)

namespace Node

def isSpace (c : Char) : Bool :=
  c == ' ' || c == '\n' || c == '\t' || c == '\r'

def skipSpace (cs : List Char) : List Char :=
  cs.dropWhile isSpace

/-- What follows a word at the front of a text. -/
def afterWord? : List Char → List Char → Option (List Char)
  | [], cs => some cs
  | _ :: _, [] => none
  | w :: ws, c :: cs => if w = c then afterWord? ws cs else none

/-- A tree, and what follows it unless the text went wrong. -/
abbrev Read (α : Type) := α × Option (List Char)

/-- Reads one of the three words. -/
def word (w : String) (node : Node) (cs : List Char) : Read Node :=
  match afterWord? w.toList cs with
  | some rest => (node, some rest)
  | none => (.fault, none)

mutual

/-- Reads a value; every step takes one of the fuel, of which a text needs no more than twice its
length. -/
def value : Nat → List Char → Read Node
  | 0, _ => (.fault, none)
  | fuel + 1, cs =>
    match skipSpace cs with
    | 'n' :: cs => word "ull" .null cs
    | 't' :: cs => word "rue" (.bool true) cs
    | 'f' :: cs => word "alse" (.bool false) cs
    | '"' :: cs =>
      match Quoted.decode cs with
      | some (chars, rest) => (.string (chars.map String.ofList), some rest)
      | none => (.fault, none)
    | '[' :: cs =>
      match skipSpace cs with
      | ']' :: rest => (.array [] true, some rest)
      | cs =>
        let (nodes, rest) := items fuel cs
        (.array nodes rest.isSome, rest)
    | '\x7b' :: cs =>
      match skipSpace cs with
      | '\x7d' :: rest => (.object [] true, some rest)
      | cs =>
        let (nodes, rest) := members fuel cs
        (.object nodes rest.isSome, rest)
    | cs =>
      match NumberText.read? cs with
      | some (text, rest) => (.number text.number?, some rest)
      | none => (.fault, none)

/-- Reads the items of an array up to its bracket; there is at least one. -/
def items : Nat → List Char → Read (List Node)
  | 0, _ => ([], none)
  | fuel + 1, cs =>
    match value fuel cs with
    | (node, none) => ([node], none)
    | (node, some rest) =>
      match skipSpace rest with
      | ']' :: rest => ([node], some rest)
      | ',' :: rest =>
        match skipSpace rest with
        | ']' :: _ => ([node], none)
        | rest =>
          let (nodes, rest) := items fuel rest
          (node :: nodes, rest)
      | _ => ([node], none)

/-- Reads the members of an object up to its brace; there is at least one. -/
def members : Nat → List Char → Read (List (Option String × Node))
  | 0, _ => ([], none)
  | fuel + 1, cs =>
    match skipSpace cs with
    | '"' :: cs =>
      match Quoted.decode cs with
      | none => ([], none)
      | some (chars, rest) =>
        let name := chars.map String.ofList
        match skipSpace rest with
        | ':' :: rest =>
          match value fuel rest with
          | (node, none) => ([(name, node)], none)
          | (node, some rest) =>
            match skipSpace rest with
            | '\x7d' :: rest => ([(name, node)], some rest)
            | ',' :: rest =>
              let (nodes, rest) := members fuel rest
              ((name, node) :: nodes, rest)
            | _ => ([(name, node)], none)
        | _ => ([(name, .fault)], none)
    | _ => ([], none)

end

/-- A text read to a tree: the tree, and whether nothing but blanks follows it. -/
structure Document where
  root : Node
  complete : Bool

def document (text : String) : Document :=
  let cs := text.toList
  let (root, rest) := value (2 * cs.length + 2) cs
  ⟨root, match rest with
    | some rest => (skipSpace rest).isEmpty
    | none => false⟩

end Node

end TokenFaucet.Json
