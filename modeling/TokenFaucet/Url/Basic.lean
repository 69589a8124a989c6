import TokenFaucet.Url.Host

set_option autoImplicit false

/-! Addresses on the web, by the rules that browsers share. Drive letters in addresses of files get no
treatment of their own. -/

namespace TokenFaucet

/-- What follows the scheme: a server with a path, or a text that only the scheme understands. -/
inductive Url.Place where
  | server (user : String) (password : String) (host : Url.Host) (port : Option Nat)
  | none
  | opaquePath
deriving DecidableEq

structure Url where
  scheme : String
  place : Url.Place
  path : String
  query : Option String
  fragment : Option String
deriving DecidableEq

namespace Url

def defaultPort? : String → Option Nat
  | "http" => some 80
  | "ws" => some 80
  | "https" => some 443
  | "wss" => some 443
  | "ftp" => some 21
  | _ => Option.none

/-- Schemes whose addresses always name a server. -/
def isSpecial (scheme : String) : Bool :=
  (defaultPort? scheme).isSome || scheme == "file"

/-- Whether a character is always written as its bytes. -/
def isControl (c : Char) : Bool :=
  c.toNat < 0x20 || 0x7F ≤ c.toNat

def inFragmentSet (c : Char) : Bool := isControl c || " \"<>`".contains c

def inQuerySet (special : Bool) (c : Char) : Bool :=
  isControl c || " \"#<>".contains c || (special && c == '\'')

def inPathSet (c : Char) : Bool := inFragmentSet c || "#?^\x7b\x7d".contains c

def inUserSet (c : Char) : Bool := inPathSet c || "/:;=@[\\]|".contains c

def upperHex (n : Nat) : Char :=
  (Nat.digitChar n).toUpper

/-- The bytes of a character, each as `%` and two digits. -/
def percentChar (c : Char) : List Char :=
  c.toString.toUTF8.toList.flatMap fun b =>
    ['%', upperHex (b.toNat / 16), upperHex (b.toNat % 16)]

/-- Writes the characters of a set as their bytes. -/
def percentEncoded (set : Char → Bool) (cs : List Char) : String :=
  String.ofList (cs.flatMap fun c => if set c then percentChar c else [c])

def text (u : Url) : String :=
  let place := match u.place with
    | .server user password host port =>
      let credentials :=
        if user.isEmpty && password.isEmpty then ""
        else if password.isEmpty then user ++ "@"
        else user ++ ":" ++ password ++ "@"
      let port := match port with
        | some n => s!":{n}"
        | Option.none => ""
      "//" ++ credentials ++ host.text ++ port
    | .none => ""
    | .opaquePath => ""
  let query := match u.query with
    | some q => "?" ++ q
    | Option.none => ""
  let fragment := match u.fragment with
    | some f => "#" ++ f
    | Option.none => ""
  u.scheme ++ ":" ++ place ++ u.path ++ query ++ fragment

/-- The address without a name and password for the server. -/
def withoutCredentials (u : Url) : Url :=
  match u.place with
  | .server _ _ host port => { u with place := .server "" "" host port }
  | _ => u

/-- The address as a request names it: without credentials and fragment. -/
def requestText (u : Url) : String :=
  { u.withoutCredentials with fragment := Option.none }.text

/-- The server of an address, with its port unless it is the usual one. -/
def authority (u : Url) : String :=
  match u.place with
  | .server _ _ host (some port) => s!"{host.text}:{port}"
  | .server _ _ host Option.none => host.text
  | _ => ""

/-- Splits at the first character with a property, which stays with the rest. -/
def splitAt (p : Char → Bool) (cs : List Char) : List Char × List Char :=
  (cs.takeWhile fun c => !p c, cs.dropWhile fun c => !p c)

/-- The scheme in lower case and what follows its colon. -/
def scheme? (cs : List Char) : Option (String × List Char) :=
  match cs with
  | c :: _ =>
    if c.isAlpha then
      match splitAt (fun c => !(c.isAlphanum || c == '+' || c == '-' || c == '.')) cs with
      | (name, ':' :: rest) => some (Text.lowerAscii (String.ofList name), rest)
      | _ => Option.none
    else Option.none
  | [] => Option.none

def isSingleDot (s : String) : Bool :=
  s == "." || Text.lowerAscii s == "%2e"

def isDoubleDot (s : String) : Bool :=
  [ "..", ".%2e", "%2e.", "%2e%2e" ].contains (Text.lowerAscii s)

/-- The segments of a path with dots resolved; `done` holds those passed, the nearest first. -/
def resolveDots (done : List String) : List String → List String
  | [] => done.reverse
  | [last] =>
    if isDoubleDot last then (done.drop 1).reverse ++ [""]
    else if isSingleDot last then done.reverse ++ [""]
    else done.reverse ++ [last]
  | s :: rest =>
    if isDoubleDot s then resolveDots (done.drop 1) rest
    else if isSingleDot s then resolveDots done rest
    else resolveDots (s :: done) rest

/-- The segments of a path; a backslash divides them too where the scheme names a server. -/
def segments (special : Bool) (cs : List Char) : List String :=
  let cs := if special then cs.map fun c => if c == '\\' then '/' else c else cs
  ((String.ofList cs).splitOn "/").map fun s => percentEncoded inPathSet s.toList

/-- A path with its dots resolved; `cs` stands after the first slash. -/
def absolutePath (special : Bool) (cs : List Char) : String :=
  "/" ++ String.intercalate "/" (resolveDots [] (segments special cs))

/-- The query and the fragment at the end of an address. -/
def queryAndFragment (special : Bool) (cs : List Char) : Option String × Option String :=
  let (front, rest) := splitAt (· == '#') cs
  let fragment := match rest with
    | '#' :: f => some (percentEncoded inFragmentSet f)
    | _ => Option.none
  let query := match front with
    | '?' :: q => some (percentEncoded (inQuerySet special) q)
    | _ => Option.none
  (query, fragment)

/-- The name and password before the last `@` of a server, and the rest. -/
def credentials (cs : List Char) : (String × String × Bool) × List Char :=
  match splitAt (· == '@') cs.reverse with
  | (hostReversed, '@' :: userReversed) =>
    let (user, password) := splitAt (· == ':') userReversed.reverse
    ((percentEncoded inUserSet user, percentEncoded inUserSet (password.drop 1), true),
      hostReversed.reverse)
  | _ => (("", "", false), cs)

/-- Where the host ends: at a colon outside brackets. -/
def splitHost (inside : Bool) : List Char → List Char × List Char
  | [] => ([], [])
  | c :: rest =>
    if c == ':' && !inside then ([], c :: rest)
    else
      let inside := if c == '[' then true else if c == ']' then false else inside
      let (host, rest) := splitHost inside rest
      (c :: host, rest)

/-- The port after a colon; the usual one is left out. -/
def port (scheme : String) : List Char → Except Error (Option Nat)
  | [] => .ok Option.none
  | ':' :: ds =>
    if ds.isEmpty then .ok Option.none
    else if !ds.all Char.isDigit then
      -- a number too large is met before the character that is no digit, with the same error
      .error .badPort
    else
      let n := Nat.ofDigitChars 10 ds 0
      if 65535 < n then .error .badPort
      else .ok (if defaultPort? scheme = some n then Option.none else some n)
  | _ :: _ => .error .badPort

/-- The host of a scheme that leaves its names to itself. -/
def opaqueHost (s : String) : Except Error Host :=
  if s.startsWith "[" then Host.parse s
  else if s.toList.any Host.isForbiddenOpaque then .error .badOpaqueHost
  else .ok (.domain (percentEncoded isControl s.toList))

def server (scheme : String) (cs : List Char) : Except Error Place := do
  let special := isSpecial scheme
  let ((user, password, given), rest) := credentials cs
  let (hostChars, rest) := splitHost false rest
  let host := String.ofList hostChars
  if host.isEmpty && (special || given || rest.head? == some ':') then throw .emptyHost
  let host ← if special then Host.parse host else opaqueHost host
  let port ← port scheme rest
  return .server user password host port

/-- Reads what follows two slashes. -/
def afterSlashes (scheme : String) (cs : List Char) : Except Error Url := do
  let special := isSpecial scheme
  let (authority, rest) :=
    splitAt (fun c => c == '/' || c == '?' || c == '#' || (special && c == '\\')) cs
  let place ← server scheme authority
  let (pathChars, rest) := splitAt (fun c => c == '?' || c == '#') rest
  let path := match pathChars with
    | [] => if special then "/" else ""
    | _ :: cs => absolutePath special cs
  let (query, fragment) := queryAndFragment special rest
  return ⟨scheme, place, path, query, fragment⟩

/-- Reads an address of a scheme that names no server by itself. -/
def nonSpecial (scheme : String) (cs : List Char) : Except Error Url :=
  match cs with
  | '/' :: '/' :: rest => afterSlashes scheme rest
  | _ =>
    let (pathChars, rest) := splitAt (fun c => c == '?' || c == '#') cs
    let (query, fragment) := queryAndFragment false rest
    match pathChars with
    | '/' :: cs => .ok ⟨scheme, .none, absolutePath false cs, query, fragment⟩
    | cs => .ok ⟨scheme, .opaquePath, percentEncoded isControl cs, query, fragment⟩

/-- The server of a file's address, which may be left out, and what follows it. -/
def fileServer (cs : List Char) : Except Error (Host × List Char) :=
  let isSlash (c : Char) : Bool := c == '/' || c == '\\'
  match cs with
  | a :: b :: rest =>
    if isSlash a && isSlash b then do
      let (hostChars, rest) := splitAt (fun c => isSlash c || c == '?' || c == '#') rest
      if hostChars.isEmpty then return (.domain "", rest)
      let host ← Host.parse (String.ofList hostChars)
      return (if host = .domain "localhost" then .domain "" else host, rest)
    else .ok (.domain "", cs)
  | cs => .ok (.domain "", cs)

/-- Reads what follows the scheme of a file's address. -/
def file (cs : List Char) : Except Error Url := do
  let (host, rest) ← fileServer cs
  let (pathChars, rest) := splitAt (fun c => c == '?' || c == '#') rest
  let path := match pathChars with
    | c :: cs => if c == '/' || c == '\\' then absolutePath true cs else absolutePath true (c :: cs)
    | [] => "/"
  let (query, fragment) := queryAndFragment true rest
  return ⟨"file", .server "" "" host Option.none, path, query, fragment⟩

/-- A text without control characters and spaces at its ends and without tabs and line ends. -/
def cleaned (s : String) : List Char :=
  let outer (c : Char) : Bool := c.toNat ≤ 0x20
  let cs := ((s.toList.dropWhile outer).reverse.dropWhile outer).reverse
  cs.filter fun c => !(c == '\t' || c == '\n' || c == '\r')

def parse (s : String) : Except Error Url :=
  match scheme? (cleaned s) with
  | Option.none => .error .relative
  | some (scheme, rest) =>
    if scheme == "file" then file rest
    else if isSpecial scheme then
      afterSlashes scheme (rest.dropWhile fun c => c == '/' || c == '\\')
    else nonSpecial scheme rest

/-- The address of a path on the same server. -/
def onServer (base : Url) (path : String) : Except Error Url :=
  match base.place with
  | .opaquePath => .error .opaqueBase
  | _ => .ok { base with path := path, query := Option.none, fragment := Option.none }

end Url

end TokenFaucet
