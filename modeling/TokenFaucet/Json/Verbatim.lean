import TokenFaucet.Json.Node

set_option autoImplicit false

namespace TokenFaucet.Json.Verbatim

open Node (skipSpace)

/-- The value at the front of a text as it is written, and what follows it. -/
def value? (cs : List Char) : Option (List Char × List Char) :=
  match Node.value (2 * cs.length + 2) cs with
  | (_, some rest) => some (cs.take (cs.length - rest.length), rest)
  | (_, none) => none

/-- The value of the first member of that name among members; every one takes one of the fuel. -/
def memberFrom? (name : String) : Nat → List Char → Option (List Char)
  | 0, _ => none
  | fuel + 1, cs =>
    match skipSpace cs with
    | '"' :: cs =>
      match Quoted.decode cs with
      | none => none
      | some (key, rest) =>
        match skipSpace rest with
        | ':' :: rest =>
          match value? (skipSpace rest) with
          | none => none
          | some (text, rest) =>
            if key = some name.toList then some text
            else
              match skipSpace rest with
              | ',' :: rest => memberFrom? name fuel rest
              | _ => none
        | _ => none
    | _ => none

/-- The value of the first member of that name in the text of an object. -/
def member? (name : String) (text : String) : Option String :=
  match skipSpace text.toList with
  | '\x7b' :: cs => (memberFrom? name cs.length cs).map String.ofList
  | _ => none

end TokenFaucet.Json.Verbatim
