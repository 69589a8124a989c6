set_option autoImplicit false

namespace TokenFaucet.Http

/-- A media type, in lower case and without its parameters. -/
structure MediaType where
  type : String
  subtype : String
  suffix : Option String
deriving DecidableEq

namespace MediaType

def isWordChar (c : Char) : Bool :=
  c.isAlphanum || "!#$%&'+-.^_`|~".contains c

/-- A word in lower case, and what follows it. -/
def word (cs : List Char) : String × List Char :=
  (String.ofList ((cs.takeWhile isWordChar).map Char.toLower), cs.dropWhile isWordChar)

/-- Parts a subtype from its suffix, the part after the last plus sign that is not the first
character. -/
def splitSuffix (s : String) : String × Option String :=
  let cs := s.toList
  let tail := (cs.reverse.takeWhile (· ≠ '+')).reverse
  let head := cs.take (cs.length - tail.length - 1)
  if tail.length < cs.length && !head.isEmpty then (String.ofList head, some (String.ofList tail))
  else (s, none)

/-- The text after a quoted value, whose opening mark is already read. The value has at least one
character, which may be a mark itself. -/
def afterQuoted? : List Char → Option (List Char)
  | [] => none
  | first :: cs =>
    let content := first :: cs.takeWhile (· ≠ '"')
    match cs.dropWhile (· ≠ '"') with
    | _ :: rest =>
      if content.all fun c => 32 ≤ c.toNat && c.toNat ≠ 127 then
        some (rest.dropWhile (· == ' '))
      else none
    | [] => none

/-- The text after the value of a parameter; only the last value may be empty. -/
def afterValue? : List Char → Option (List Char)
  | [] => some []
  | '"' :: rest => afterQuoted? rest
  | cs => if (word cs).1.isEmpty then none else some (word cs).2

/-- Whether a text is a list of parameters, each after a semicolon; blanks may stand before a name.
`fuel` bounds the number of parameters. -/
def areParameters : Nat → List Char → Bool
  | _, [] => true
  | 0, _ :: _ => false
  | fuel + 1, ';' :: rest =>
    let rest := rest.dropWhile (· == ' ')
    if rest.isEmpty then true
    else
      let (name, rest) := word rest
      match rest with
      | '=' :: rest =>
        match afterValue? rest with
        | some rest => !name.isEmpty && areParameters fuel rest
        | none => false
      | _ => false
  | _ + 1, _ :: _ => false

def parse? (s : String) : Option MediaType :=
  let (type, rest) := word s.toList
  match rest with
  | '/' :: rest =>
    let (subtype, rest) := word rest
    if type.isEmpty || subtype.isEmpty || !areParameters rest.length rest then none
    else
      let (subtype, suffix) := splitSuffix subtype
      some ⟨type, subtype, suffix⟩
  | _ => none

/-- Whether a media type says that the content is JSON. -/
def isJson (m : MediaType) : Bool :=
  m.type == "application" && (m.subtype == "json" || m.suffix == some "json")

end MediaType

end TokenFaucet.Http
